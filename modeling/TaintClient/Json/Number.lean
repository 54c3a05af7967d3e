/-
  Reading JSON numbers. A number without fraction and exponent that fits in 64 bits stays an
  integer; every other one is a significand below `2 ^ 64` and a power of ten, multiplied out in
  double precision.
-/
import TaintClient.Json.Fault

namespace TaintClient.Json

/-- The value of a decimal digit. -/
def digitValue (c : Char) : Nat := c.toNat - '0'.toNat

/-- Appends digits to a significand while it stays below `2 ^ 64`. The second component is the
number of digits that were left out. -/
def accumulate (n : Nat) : List Char → Nat × Nat
  | [] => (n, 0)
  | c :: cs =>
    if n * 10 + digitValue c < UInt64.size then accumulate (n * 10 + digitValue c) cs
    else (n, cs.length + 1)

/-- `x · 10 ^ e` for exponents from -308 to 308, in one multiplication or division. -/
def scaleOnce (x : Float) (e : Int) : Float :=
  if 0 ≤ e then x * Float.ofScientific 1 false e.toNat
  else x / Float.ofScientific 1 false (-e).toNat

/-- `x · 10 ^ e`, in steps of 308 powers when the exponent is below -308; `none` when that is too
large. -/
def scale (x : Float) (e : Int) : Option Float :=
  if e.natAbs ≤ 308 then
    let y := scaleOnce x e
    if 0 ≤ e ∧ y.isInf then none else some y
  else if x == 0.0 then some x
  else if 0 ≤ e then none
  else scale (x / Float.ofScientific 1 false 308) (e + 308)
termination_by e.natAbs

/-- The float of a significand, a power of ten and a sign, read up to the cursor. -/
def floatOfParts (positive : Bool) (significand : Nat) (e : Int) (c : Cursor) :
    Except Fault (Number × Cursor) :=
  match scale significand.toUInt64.toFloat e with
  | none => .error ⟨.numberTooLarge, c.place⟩
  | some x => .ok (.float (if positive then x else -x), c)

/-- The value of the digits of an exponent, or the number of digits after which it no longer fits
in 31 bits. -/
def exponentValue (n count : Nat) : List Char → Nat ⊕ Nat
  | [] => .inl n
  | c :: cs =>
    if n * 10 + digitValue c < 2147483648 then exponentValue (n * 10 + digitValue c) (count + 1) cs
    else .inr (count + 1)

/-- Reads an exponent, the cursor being at its letter. -/
def readExponent (positive : Bool) (significand : Nat) (start : Int) (c : Cursor) :
    Except Fault (Number × Cursor) :=
  let c := c.next
  let negative := c.rest.head? = some '-'
  let c := if negative ∨ c.rest.head? = some '+' then c.next else c
  match c.rest with
  | [] => .error ⟨.endInValue, c.place⟩
  | x :: _ =>
    if x.isDigit then
      match exponentValue 0 0 c.digits with
      | .inl e =>
        floatOfParts positive significand (if negative then start - e else start + e) c.skipDigits
      | .inr count =>
        if significand ≠ 0 ∧ ¬ negative then
          .error ⟨.numberTooLarge, c.place.afterOctets count c.rest⟩
        else .ok (.float (if positive then 0.0 else -0.0), c.skipDigits)
    else .error ⟨.badNumber, c.peekPlace⟩

/-- Whether the cursor is at the letter of an exponent. -/
def atExponent (c : Cursor) : Bool := c.rest.head? = some 'e' || c.rest.head? = some 'E'

/-- Reads a fraction, the cursor being at its point. `dropped` digits before the point did not fit
in the significand. -/
def readFraction (positive : Bool) (significand dropped : Nat) (c : Cursor) :
    Except Fault (Number × Cursor) :=
  let c := c.next
  match c.digits with
  | [] => .error ⟨if c.rest.isEmpty then .endInValue else .badNumber, c.peekPlace⟩
  | ds =>
    let (significand, unread) := accumulate significand ds
    let e : Int := (dropped : Int) - (ds.length - unread : Nat)
    let c := c.skipDigits
    if atExponent c then readExponent positive significand e c
    else floatOfParts positive significand e c

/-- Reads a number, the cursor being behind its sign. -/
def readNumber (positive : Bool) (c : Cursor) : Except Fault (Number × Cursor) :=
  match c.rest with
  | [] => .error ⟨.endInValue, c.place⟩
  | x :: xs =>
    if ¬ x.isDigit then .error ⟨.badNumber, c.peekPlace⟩
    else if x = '0' ∧ (xs.head?.any Char.isDigit) then .error ⟨.badNumber, c.next.peekPlace⟩
    else
      let (significand, dropped) := accumulate 0 c.digits
      let c := c.skipDigits
      if c.rest.head? = some '.' then readFraction positive significand dropped c
      else if atExponent c then readExponent positive significand dropped c
      else if dropped ≠ 0 then floatOfParts positive significand dropped c
      else if positive then .ok (.natural significand, c)
      else if 1 ≤ significand ∧ significand ≤ 9223372036854775808 then .ok (.negative (-significand), c)
      else .ok (.float (-significand.toUInt64.toFloat), c)

/-! ## Stepping over a number

A number that is not wanted is checked for its form only; it may have any size. -/

/-- Steps over an exponent, the cursor being at its letter. -/
def skipExponent (c : Cursor) : Except Fault Cursor :=
  let c := c.next
  let c := if c.rest.head? = some '-' ∨ c.rest.head? = some '+' then c.next else c
  match c.digits with
  | [] => .error ⟨.badNumber, c.peekPlace⟩
  | _ => .ok c.skipDigits

/-- Steps over a number, the cursor being behind its sign. -/
def skipNumber (c : Cursor) : Except Fault Cursor :=
  match c.rest with
  | [] => .error ⟨.badNumber, c.place⟩
  | x :: xs =>
    if ¬ x.isDigit then .error ⟨.badNumber, c.peekPlace⟩
    else if x = '0' ∧ (xs.head?.any Char.isDigit) then .error ⟨.badNumber, c.next.peekPlace⟩
    else
      let c := c.skipDigits
      if c.rest.head? = some '.' then
        let c := c.next
        match c.digits with
        | [] => .error ⟨.badNumber, c.peekPlace⟩
        | _ => if atExponent c.skipDigits then skipExponent c.skipDigits else .ok c.skipDigits
      else if atExponent c then skipExponent c
      else .ok c

theorem left_skipWhile_head {p : Char → Bool} {c : Cursor} {x : Char} {xs : List Char}
    (h : c.rest = x :: xs) (hx : p x) : (Cursor.skipWhile p c.rest c.place).left < c.left := by
  rw [h, Cursor.skipWhile, if_pos hx]
  have := Cursor.left_skipWhile p xs (c.place.after x)
  simp only [Cursor.left, h, List.length_cons] at *
  omega

theorem left_skipExponent {c d : Cursor} (h : skipExponent c = .ok d) : d.left ≤ c.left := by
  unfold skipExponent at h
  simp only at h
  have h1 := Cursor.left_next_le c
  have h2 := Cursor.left_next_le c.next
  split at h
  · cases h
  · injection h with h
    subst h
    split
    · have := Cursor.left_skipDigits c.next.next
      omega
    · have := Cursor.left_skipDigits c.next
      omega

theorem left_skipNumber {c d : Cursor} (h : skipNumber c = .ok d) : d.left < c.left := by
  unfold skipNumber at h
  split at h
  · cases h
  · rename_i x xs hx
    split at h
    · cases h
    · rename_i hd
      have hd : x.isDigit := by simpa using hd
      have h0 : c.skipDigits.left < c.left := left_skipWhile_head hx hd
      split at h
      · cases h
      · simp only at h
        split at h
        · have h1 := Cursor.left_next_le c.skipDigits
          have h2 := Cursor.left_skipDigits c.skipDigits.next
          split at h
          · cases h
          · split at h
            · have := left_skipExponent h
              omega
            · injection h with h
              subst h
              omega
        · split at h
          · have := left_skipExponent h
            omega
          · injection h with h
            subst h
            omega

end TaintClient.Json

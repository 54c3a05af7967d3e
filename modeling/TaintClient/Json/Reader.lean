/-
  Reading JSON values of a known kind. A value of another kind is refused with its kind and, for
  texts and numbers, its value; members that are not wanted are stepped over, whatever their
  depth.
-/
import TaintClient.Json.Number
import TaintClient.Json.Text

namespace TaintClient.Json

/-- Steps over the letters of a word. -/
def expectWord : List Char → Cursor → Except Fault Cursor
  | [], c => .ok c
  | w :: ws, c =>
    match c.rest with
    | [] => .error ⟨.endInValue, c.place⟩
    | x :: _ => if x = w then expectWord ws c.next else .error ⟨.expectedWord, c.peekPlace⟩

/-- The fault of a value that is not of the expected kind. The value is read as far as needed to
name it, and faults in it come first. -/
def wrongType (expected : String) (c : Cursor) : Fault :=
  let report (found : Found) (d : Cursor) : Fault := ⟨.wrongType found expected, d.place⟩
  let word (w : String) (found : Found) : Fault :=
    match expectWord w.toList c.next with
    | .error e => e
    | .ok d => report found d
  let number (positive : Bool) (d : Cursor) : Fault :=
    match readNumber positive d with
    | .error e => e
    | .ok (n, d) => report (.number n) d
  match c.rest with
  | [] => ⟨.expectedValue, c.peekPlace⟩
  | x :: _ =>
    if x = 'n' then word "ull" .null
    else if x = 't' then word "rue" (.bool true)
    else if x = 'f' then word "alse" (.bool false)
    else if x = '-' then number false c.next
    else if x.isDigit then number true c
    else if x = '"' then
      match readText c.next with
      | .error e => e
      | .ok (s, d) => report (.text s) d
    else if x = '[' then report .sequence c
    else if x = '{' then report .map c
    else ⟨.expectedValue, c.peekPlace⟩

/-- Reads a string. -/
def readString (expected : String) (c : Cursor) : Except Fault (List Char × Cursor) :=
  let c := c.skipSpace
  match c.rest with
  | [] => .error ⟨.endInValue, c.peekPlace⟩
  | x :: _ => if x = '"' then readText c.next else .error (wrongType expected c)

/-- Reads an integer from `-2 ^ 63` to `2 ^ 63 - 1`. -/
def readInteger (c : Cursor) : Except Fault (Int × Cursor) :=
  let expected := "i64"
  let check (r : Except Fault (Number × Cursor)) : Except Fault (Int × Cursor) :=
    match r with
    | .error e => .error e
    | .ok (.natural n, d) =>
      if n < 9223372036854775808 then .ok (n, d) else .error ⟨.outOfRange n expected, d.place⟩
    | .ok (.negative n, d) => .ok (n, d)
    | .ok (.float x, d) => .error ⟨.wrongType (.number (.float x)) expected, d.place⟩
  let c := c.skipSpace
  match c.rest with
  | [] => .error ⟨.endInValue, c.peekPlace⟩
  | x :: _ =>
    if x = '-' then check (readNumber false c.next)
    else if x.isDigit then check (readNumber true c)
    else .error (wrongType expected c)

/-- Reads `null` or a value. -/
def readOptional {α : Type} (read : Cursor → Except Fault (α × Cursor)) (c : Cursor) :
    Except Fault (Option α × Cursor) :=
  let c := c.skipSpace
  if c.rest.head? = some 'n' then do
    let d ← expectWord "ull".toList c.next
    .ok (none, d)
  else do
    let (x, d) ← read c
    .ok (some x, d)

/-- Steps over the colon between a name and its value. -/
def expectColon (c : Cursor) : Except Fault Cursor :=
  let c := c.skipSpace
  match c.rest with
  | [] => .error ⟨.endInObject, c.peekPlace⟩
  | x :: _ => if x = ':' then .ok c.next else .error ⟨.expectedColon, c.peekPlace⟩

/-- Nothing but insignificant characters may follow. -/
def expectEnd (c : Cursor) : Except Fault Unit :=
  let c := c.skipSpace
  if c.rest.isEmpty then .ok () else .error ⟨.trailingCharacters, c.peekPlace⟩

/-! ## Stepping over a value -/

/-- An open bracket. -/
inductive Bracket
  | list
  | object
deriving DecidableEq

/-- The sign that closes a bracket. -/
def Bracket.closing : Bracket → Char
  | .list => ']'
  | .object => '\x7d'

/-- The fault of a text that ends inside the bracket. -/
def Bracket.unclosed : Bracket → Cause
  | .list => .endInList
  | .object => .endInObject

/-- The fault of anything but a comma or the closing sign. -/
def Bracket.unseparated : Bracket → Cause
  | .list => .expectedListSeparator
  | .object => .expectedObjectSeparator

/-- Steps over a value that is not a bracket, or over an opening bracket. -/
def skipScalar (c : Cursor) : Except Fault (Option Bracket × Cursor) :=
  match c.rest with
  | [] => .error ⟨.endInValue, c.peekPlace⟩
  | x :: _ =>
    if x = 'n' then (none, ·) <$> expectWord "ull".toList c.next
    else if x = 't' then (none, ·) <$> expectWord "rue".toList c.next
    else if x = 'f' then (none, ·) <$> expectWord "alse".toList c.next
    else if x = '-' then (none, ·) <$> skipNumber c.next
    else if x.isDigit then (none, ·) <$> skipNumber c
    else if x = '"' then (none, ·) <$> skipText c.next
    else if x = '[' then .ok (some .list, c.next)
    else if x = '{' then .ok (some .object, c.next)
    else .error ⟨.expectedValue, c.peekPlace⟩

/-- Steps over the name of a member and its colon. -/
def skipName (c : Cursor) : Except Fault Cursor :=
  let c := c.skipSpace
  match c.rest with
  | [] => .error ⟨.endInObject, c.peekPlace⟩
  | x :: _ =>
    if x = '"' then do
      let d ← skipText c.next
      expectColon d
    else .error ⟨.keyNotText, c.peekPlace⟩

/-- What follows in the innermost open bracket: another value, or the closing sign. -/
inductive Follow
  | value (c : Cursor)
  | closed (c : Cursor)

/-- Looks for a comma or the closing sign; right behind the opening sign no comma is due. -/
def follow (b : Bracket) (first : Bool) (c : Cursor) : Except Fault Follow :=
  let c := c.skipSpace
  match c.rest with
  | [] => .error ⟨b.unclosed, c.peekPlace⟩
  | x :: _ =>
    if x = b.closing then .ok (.closed c.next)
    else if first then .ok (.value c)
    else if x = ',' then .ok (.value c.next)
    else .error ⟨b.unseparated, c.peekPlace⟩

/-- Steps over the name, if the next value is a member of an object. -/
def skipIntro (b : Bracket) (c : Cursor) : Except Fault Cursor :=
  match b with
  | .list => .ok c
  | .object => skipName c

/-- Steps over closing signs up to the next value in the brackets that stay open; `none` when all
are closed. -/
def closeBrackets : List Bracket → Bool → Cursor → Except Fault (Option (List Bracket) × Cursor)
  | [], _, c => .ok (none, c)
  | b :: bs, first, c =>
    match follow b first c with
    | .error e => .error e
    | .ok (.value d) => do
      let d ← skipIntro b d
      .ok (some (b :: bs), d)
    | .ok (.closed d) => closeBrackets bs false d

theorem left_expectWord {w : List Char} {c d : Cursor} (h : expectWord w c = .ok d) :
    d.left ≤ c.left := by
  induction w generalizing c with
  | nil =>
    injection h with h
    subst h
    exact Nat.le_refl _
  | cons x w ih =>
    rw [expectWord] at h
    split at h
    · cases h
    · split at h
      · exact Nat.le_trans (ih h) (Cursor.left_next_le _)
      · cases h

theorem left_expectColon {c d : Cursor} (h : expectColon c = .ok d) : d.left ≤ c.left := by
  unfold expectColon at h
  simp only at h
  split at h
  · cases h
  · split at h
    · injection h with h
      rw [← h]
      exact Nat.le_trans (Cursor.left_next_le _) (Cursor.left_skipSpace _)
    · cases h

theorem left_skipName {c d : Cursor} (h : skipName c = .ok d) : d.left ≤ c.left := by
  unfold skipName at h
  simp only at h
  have h0 := Cursor.left_skipSpace c
  split at h
  · cases h
  · split at h
    · have h1 := Cursor.left_next_le c.skipSpace
      cases h2 : skipText c.skipSpace.next with
      | error e => simp [h2, bind, Except.bind] at h
      | ok e =>
        simp only [h2, bind, Except.bind] at h
        have := left_skipText h2
        have := left_expectColon h
        omega
    · cases h

theorem left_follow {b : Bracket} {first : Bool} {c : Cursor} {f : Follow}
    (h : follow b first c = .ok f) :
    match f with
    | .value d => d.left ≤ c.left
    | .closed d => d.left ≤ c.left := by
  unfold follow at h
  simp only at h
  have h0 := Cursor.left_skipSpace c
  have h1 := Cursor.left_next_le c.skipSpace
  split at h
  · cases h
  · split at h
    · injection h with h
      subst h
      simp only
      omega
    · split at h
      · injection h with h
        subst h
        simp only
        omega
      · split at h
        · injection h with h
          subst h
          simp only
          omega
        · cases h

theorem left_skipIntro {b : Bracket} {c d : Cursor} (h : skipIntro b c = .ok d) :
    d.left ≤ c.left := by
  cases b with
  | list =>
    injection h with h
    subst h
    exact Nat.le_refl _
  | object => exact left_skipName h

theorem left_closeBrackets {bs : List Bracket} {first : Bool} {c d : Cursor}
    {o : Option (List Bracket)} (h : closeBrackets bs first c = .ok (o, d)) :
    d.left ≤ c.left := by
  induction bs generalizing first c with
  | nil =>
    injection h with h
    injection h with _ h
    subst h
    exact Nat.le_refl _
  | cons b bs ih =>
    rw [closeBrackets] at h
    split at h
    · cases h
    · rename_i e he
      have h1 := left_follow he
      simp only at h1
      cases h2 : skipIntro b e with
      | error f => simp [h2, bind, Except.bind] at h
      | ok f =>
        simp only [h2, bind, Except.bind] at h
        injection h with h
        injection h with _ h
        have := left_skipIntro h2
        subst h
        omega
    · rename_i e he
      have h1 := left_follow he
      simp only at h1
      exact Nat.le_trans (ih h) h1

theorem left_map {α β : Type} {r : Except Fault α} {f : α → β} {b : β}
    (h : f <$> r = .ok b) : ∃ a, r = .ok a ∧ f a = b := by
  cases r with
  | error e => cases h
  | ok a =>
    injection h with h
    exact ⟨a, rfl, h⟩

theorem left_skipScalar {c d : Cursor} {o : Option Bracket} (h : skipScalar c = .ok (o, d)) :
    d.left < c.left := by
  unfold skipScalar at h
  split at h
  · cases h
  · rename_i x xs hx
    have hn := Cursor.left_next hx
    repeat' split at h
    all_goals first
      | (injection h with h
         injection h with _ h
         subst h
         exact hn)
      | (obtain ⟨e, he, hd⟩ := left_map h
         injection hd with _ hd
         subst hd
         first
           | exact Nat.lt_of_le_of_lt (left_expectWord he) hn
           | exact Nat.lt_trans (left_skipNumber he) hn
           | exact left_skipNumber he
           | exact Nat.lt_trans (left_skipText he) hn)
      | cases h

/-- Steps over the value at the cursor and the rest of the open brackets. -/
def skipOpen (bs : List Bracket) (c : Cursor) : Except Fault Cursor :=
  match _hs : skipScalar c.skipSpace with
  | .error e => .error e
  | .ok (o, d) =>
    match _hc : closeBrackets (o.toList ++ bs) o.isSome d with
    | .error e => .error e
    | .ok (none, d) => .ok d
    | .ok (some bs, d) => skipOpen bs d
termination_by c.left
decreasing_by
  have h1 := left_skipScalar _hs
  have h2 := left_closeBrackets _hc
  have h3 := Cursor.left_skipSpace c
  omega

/-- Steps over a value. -/
def skipValue (c : Cursor) : Except Fault Cursor := skipOpen [] c

end TaintClient.Json

/-
  Tables of code points, written as a text of hexadecimal numbers and kept as sorted arrays.
  A table is looked up by halving, so membership takes a number of steps logarithmic in the
  number of its rows.
-/

namespace TaintClient.Text

/-- The value of a hexadecimal digit. -/
def hexValue? (c : Char) : Option Nat :=
  let n := c.toNat
  if 0x30 ≤ n ∧ n ≤ 0x39 then some (n - 0x30)
  else if 0x41 ≤ n ∧ n ≤ 0x46 then some (n - 0x37)
  else if 0x61 ≤ n ∧ n ≤ 0x66 then some (n - 0x57)
  else none

/-- The number written by hexadecimal digits; other characters are skipped. -/
def hexNumber (s : List Char) : Nat :=
  s.foldl (fun n c => match hexValue? c with | some d => n * 16 + d | none => n) 0

/-- The digits of a number in base sixteen, lower case, without leading zeros. -/
def hexDigits (n : Nat) : List Char := Nat.toDigits 16 n

/-- The maximal runs of characters other than space and line feed. -/
def words (s : List Char) : List (List Char) :=
  let r := s.foldr (fun c (acc : List Char × List (List Char)) =>
    if c = ' ' ∨ c = '\n' then ([], if acc.1.isEmpty then acc.2 else acc.1 :: acc.2)
    else (c :: acc.1, acc.2)) ([], [])
  if r.1.isEmpty then r.2 else r.1 :: r.2

/-- Increasing, disjoint ranges of code points, each with a value. -/
structure CodeTable (α : Type) where
  rows : Array (Nat × Nat × α)

namespace CodeTable

/-- The index of the last row in `[lo, hi)` that starts at or below `n`, if any does. -/
def lastBelow {α : Type} (t : CodeTable α) (n lo hi : Nat) : Option Nat :=
  if _h : lo < hi then
    let mid := lo + (hi - lo) / 2
    match t.rows[mid]? with
    | none => none
    | some row =>
      if row.1 ≤ n then
        match lastBelow t n (mid + 1) hi with
        | some i => some i
        | none => some mid
      else lastBelow t n lo mid
  else none
termination_by hi - lo

/-- The value of the row whose range holds `n`. -/
def find? {α : Type} (t : CodeTable α) (n : Nat) : Option α :=
  match t.lastBelow n 0 t.rows.size with
  | none => none
  | some i =>
    match t.rows[i]? with
    | none => none
    | some row => if n ≤ row.2.1 then some row.2.2 else none

/-- Whether some row's range holds `n`. -/
def contains {α : Type} (t : CodeTable α) (n : Nat) : Bool := (t.find? n).isSome

/-- Reads a range: `41-5a`, or `ad` for a single code point. -/
def readRange (w : List Char) : Nat × Nat :=
  match w.dropWhile (· != '-') with
  | [] => let n := hexNumber w; (n, n)
  | _ :: hi => (hexNumber (w.takeWhile (· != '-')), hexNumber hi)

/-- A set of code points from the text of its ranges. -/
def ofRanges (s : String) : CodeTable Unit :=
  ⟨((words s.toList).map fun w => let r := readRange w; (r.1, r.2, ())).toArray⟩

/-- A table from words such as `41-5a=value`; `value` reads what follows the sign. -/
def ofPairs {α : Type} (value : List Char → α) (s : String) : CodeTable α :=
  ⟨((words s.toList).map fun w =>
    let r := readRange (w.takeWhile (· != '='))
    (r.1, r.2, value ((w.dropWhile (· != '=')).drop 1))).toArray⟩

end CodeTable

end TaintClient.Text

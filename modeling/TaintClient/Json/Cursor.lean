/-
  Reading position in a JSON text. Lines are counted from one; a column is the number of octets
  since the last line feed.
-/

namespace TaintClient.Json

/-- A place in a text: the line, and the octets before it on that line. -/
structure Place where
  line : Nat
  column : Nat
deriving Repr, DecidableEq

namespace Place

/-- The first place of a text. -/
def start : Place := ⟨1, 0⟩

/-- The place behind a character. -/
def after (p : Place) (c : Char) : Place :=
  if c = '\n' then ⟨p.line + 1, 0⟩ else ⟨p.line, p.column + c.utf8Size⟩

/-- The place `n` octets into a text, which may be inside a character. -/
def afterOctets : Nat → Place → List Char → Place
  | 0, p, _ => p
  | _ + 1, p, [] => p
  | n + 1, p, c :: cs =>
    if n + 1 < c.utf8Size then ⟨p.line, p.column + n + 1⟩
    else afterOctets (n + 1 - c.utf8Size) (p.after c) cs
termination_by _ _ s => s.length

end Place

/-- What is left of a text, and where it begins. -/
structure Cursor where
  rest : List Char
  place : Place

namespace Cursor

/-- The beginning of a text. -/
def ofText (s : List Char) : Cursor := ⟨s, Place.start⟩

/-- Steps over one character, if there is one. -/
def next (c : Cursor) : Cursor :=
  match c.rest with
  | [] => c
  | x :: xs => ⟨xs, c.place.after x⟩

/-- The place one octet on, where a character that does not fit is reported. -/
def peekPlace (c : Cursor) : Place := c.place.afterOctets 1 c.rest

/-- The place behind the whole text. -/
def endPlace (c : Cursor) : Place := c.rest.foldl Place.after c.place

/-- Whether a character is insignificant between tokens. -/
def isSpace (c : Char) : Bool := c = ' ' || c = '\n' || c = '\t' || c = '\r'

/-- Steps over the characters that satisfy `p`. -/
def skipWhile (p : Char → Bool) (s : List Char) (at_ : Place) : Cursor :=
  match s with
  | [] => ⟨[], at_⟩
  | x :: xs => if p x then skipWhile p xs (at_.after x) else ⟨x :: xs, at_⟩

/-- Steps over insignificant characters. -/
def skipSpace (c : Cursor) : Cursor := skipWhile isSpace c.rest c.place

/-- Steps over decimal digits. -/
def skipDigits (c : Cursor) : Cursor := skipWhile Char.isDigit c.rest c.place

/-- The decimal digits at the cursor. -/
def digits (c : Cursor) : List Char := c.rest.takeWhile Char.isDigit

/-- How much is left. -/
def left (c : Cursor) : Nat := c.rest.length

theorem left_skipWhile (p : Char → Bool) (s : List Char) (q : Place) :
    (skipWhile p s q).left ≤ s.length := by
  induction s generalizing q with
  | nil => simp [skipWhile, left]
  | cons x xs ih =>
    rw [skipWhile]
    split
    · exact Nat.le_succ_of_le (ih _)
    · simp [left]

theorem left_skipSpace (c : Cursor) : c.skipSpace.left ≤ c.left := left_skipWhile _ _ _

theorem left_skipDigits (c : Cursor) : c.skipDigits.left ≤ c.left := left_skipWhile _ _ _

theorem left_next_le (c : Cursor) : c.next.left ≤ c.left := by
  unfold next left
  split <;> simp_all

theorem left_next {c : Cursor} {x : Char} {xs : List Char} (h : c.rest = x :: xs) :
    c.next.left < c.left := by
  simp [next, left, h]

end Cursor

end TaintClient.Json

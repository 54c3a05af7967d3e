/-
  The composed form of a text: every character that can be written as one is written as one, and
  marks on one character stand in the order of their classes.
-/
import TaintClient.Text.CompositionTable

namespace TaintClient.Text

/-- The class of a mark; zero for all others. -/
def combiningClass (c : Char) : Nat := (classes.find? c.toNat).getD 0

/-- The first mark. Below it no character has a class or is put on another one. -/
def firstMark : Nat := 0x300

/-- Whether a character is a mark. -/
def isMark (c : Char) : Bool := firstMark ≤ c.toNat && marks.contains c.toNat

/-! ## Syllables of Hangul -/

/-- The parts of a syllable: a leading consonant and a vowel, or such a syllable and a trailing
consonant. -/
def syllableParts? (c : Char) : Option (Char × Char) :=
  let n := c.toNat
  if 0xAC00 ≤ n ∧ n < 0xD7A4 then
    let i := n - 0xAC00
    if i % 28 = 0 then some (Char.ofNat (0x1100 + i / 588), Char.ofNat (0x1161 + i % 588 / 28))
    else some (Char.ofNat (n - i % 28), Char.ofNat (0x11A7 + i % 28))
  else none

/-- The syllable of two parts. -/
def syllable? (a b : Char) : Option Char :=
  let m := a.toNat
  let n := b.toNat
  if 0x1100 ≤ m ∧ m < 0x1113 ∧ 0x1161 ≤ n ∧ n < 0x1176 then
    some (Char.ofNat (0xAC00 + ((m - 0x1100) * 21 + (n - 0x1161)) * 28))
  else if 0xAC00 ≤ m ∧ m < 0xD7A4 ∧ (m - 0xAC00) % 28 = 0 ∧ 0x11A8 ≤ n ∧ n < 0x11C3 then
    some (Char.ofNat (m + (n - 0x11A7)))
  else none

/-! ## Taking apart -/

/-- The two characters that a character is made of. -/
def parts? (c : Char) : Option (Char × Char) :=
  match syllableParts? c with
  | some p => some p
  | none => pairs.find? c.toNat

/-- A character taken apart at most `n` times at its front. -/
def apart : Nat → Char → List Char
  | 0, c => [c]
  | n + 1, c =>
    match parts? c with
    | none => [c]
    | some (a, b) => apart n a ++ [b]

/-- Puts a mark into its place among the marks before it, which stand backwards. -/
def insertMark (c : Char) : List Char → List Char
  | [] => [c]
  | d :: ds =>
    if combiningClass c ≠ 0 ∧ combiningClass c < combiningClass d then d :: insertMark c ds
    else c :: d :: ds

/-- The text with all characters taken apart and the marks in order. No character is made of more
than five. -/
def decomposed (s : List Char) : List Char :=
  ((s.flatMap (apart 4)).foldl (fun acc c => insertMark c acc) []).reverse

/-! ## Putting together -/

/-- The character that is made of two. -/
def whole? (a b : Char) : Option Char :=
  match syllable? a b with
  | some c => some c
  | none => (pairs.rows.find? fun row => row.2.2 = (a, b)).map fun row => Char.ofNat row.1

/-- A text while it is put together: what is finished, the character that marks are put on, and the
marks behind it that are not part of it; texts are kept backwards. -/
structure Composing where
  finished : List Char := []
  base : Option Char := none
  loose : List Char := []

/-- Adds a character. It becomes part of the base if no mark of its class or higher is between. -/
def Composing.add (s : Composing) (c : Char) : Composing :=
  match s.base with
  | none =>
    if combiningClass c = 0 then { s with base := some c } else { s with finished := c :: s.finished }
  | some b =>
    let near := match s.loose with
      | [] => true
      | m :: _ => combiningClass m < combiningClass c
    match (if near then whole? b c else none) with
    | some w => { s with base := some w }
    | none =>
      if combiningClass c = 0 then ⟨s.loose ++ b :: s.finished, some c, []⟩
      else { s with loose := c :: s.loose }

/-- The text. -/
def Composing.text (s : Composing) : List Char :=
  (s.loose ++ s.base.toList ++ s.finished).reverse

/-- The composed form of a text. One without marks has it already. -/
def composed (s : List Char) : List Char :=
  if s.all (·.toNat < firstMark) then s else ((decomposed s).foldl Composing.add {}).text

end TaintClient.Text

/-
  Texts that come from outside and may hold octets that are no characters, such as arguments and
  names of files.
-/
import TaintClient.Text.Utf8

namespace TaintClient.Text

/-- A text in which `none` stands for each damaged sequence of octets. -/
abbrev Loose := List (Option Char)

namespace Loose

/-- A sound text. -/
def ofText (s : String) : Loose := s.toList.map some

/-- The text of octets. -/
def ofOctets (bs : List UInt8) : Loose := Utf8.scan bs

/-- The text, if it is sound. -/
def text? (s : Loose) : Option String := (s.mapM id).map String.ofList

/-- The text as it is shown, with U+FFFD for what is damaged. -/
def shown (s : Loose) : String := String.ofList (s.map (·.getD '\uFFFD'))

theorem mapM_some (s : List Char) : (s.map some).mapM id = some s := by
  induction s with
  | nil => rfl
  | cons c cs ih => simp [ih]

theorem text_ofText (s : String) : (ofText s).text? = some s := by
  rw [text?, ofText, mapM_some]
  simp

end Loose

end TaintClient.Text

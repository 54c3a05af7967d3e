/-
  Quoted texts: the text between quotation marks, with marks, backslashes, line breaks, tabs and
  NUL as two-character escapes and every character without a form of its own by number. A quoted
  text holds no line break, so it can stand in a one-line message.
-/
import TaintClient.Text.Unprintable

namespace TaintClient.Text.Quoted

/-- How one character is written between the marks. -/
def escape (c : Char) : List Char :=
  if c = '\x00' then ['\\', '0']
  else if c = '\t' then ['\\', 't']
  else if c = '\r' then ['\\', 'r']
  else if c = '\n' then ['\\', 'n']
  else if c = '\\' then ['\\', '\\']
  else if c = '"' then ['\\', '"']
  else if c.toNat < 0x20 ∨ (0x7F ≤ c.toNat ∧ unprintable.contains c.toNat) then
    ['\\', 'u', '\x7b'] ++ hexDigits c.toNat ++ ['\x7d']
  else [c]

/-- The text between quotation marks. -/
def quote (s : List Char) : List Char := '"' :: s.flatMap escape ++ ['"']

end TaintClient.Text.Quoted

/-
  A text as it may be shown: without control characters other than white space, and without the
  sequences by which a text steers a terminal.
-/

namespace TaintClient.Text.Terminal

/-- Where a reader is: in plain text, behind an escape character, or inside one of the sequences
that it opens. A command ends at its letter, a string at the sign for its end. -/
inductive Place
  | plain
  | escape
  | escapeMiddle
  | command
  | title
  | string
deriving DecidableEq, Repr

/-- Whether a character is in a range of code points. -/
def within (low high : Nat) (c : Char) : Bool := low ≤ c.toNat && c.toNat ≤ high

/-- The place behind a character. -/
def Place.step (p : Place) (c : Char) : Place :=
  if c = '\x1b' then .escape
  else if c = '\x18' ∨ c = '\x1a' then .plain
  else
    match p with
    | .plain => .plain
    | .escape =>
      if c = '[' then .command
      else if c = ']' then .title
      else if c = 'P' ∨ c = 'X' ∨ c = '^' ∨ c = '_' then .string
      else if within 0x20 0x2f c then .escapeMiddle
      else if within 0x30 0x7e c then .plain
      else .escape
    | .escapeMiddle => if within 0x30 0x7e c then .plain else .escapeMiddle
    | .command => if within 0x40 0x7e c then .plain else .command
    | .title => if c = '\x07' then .plain else .title
    | .string => .string

/-- Whether a character is white space of ASCII. -/
def isSpace (c : Char) : Bool := within 0x09 0x0a c || within 0x0c 0x0d c || c = ' '

/-- Whether a character is shown at a place. White space ends a command that it stands in, but not
a title or a string. -/
def Place.shows (p : Place) (c : Char) : Bool :=
  match p with
  | .plain => isSpace c || (0x20 ≤ c.toNat && c.toNat ≠ 0x7f)
  | .escape | .escapeMiddle | .command => isSpace c && c ≠ ' '
  | .title | .string => false

/-- The text that is shown from a place on. -/
def visibleFrom (p : Place) : List Char → List Char
  | [] => []
  | c :: cs =>
    if p.shows c then c :: visibleFrom .plain cs else visibleFrom (p.step c) cs

/-- The text that is shown. -/
def visible (s : List Char) : List Char := visibleFrom .plain s

end TaintClient.Text.Terminal

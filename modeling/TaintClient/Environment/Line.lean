/-
  One line of a file of variables: nothing, or a variable and its value. In the value, quotation
  marks hold blanks together, a backslash makes the next character ordinary, and a dollar sign
  stands for the value of the variable that is named behind it.
-/
import TaintClient.Environment.Basic
import TaintClient.Text.Alphanumeric
import TaintClient.Text.Blank

namespace TaintClient.Environment

/-! ## Values -/

/-- Where the reader of a value is. -/
inductive Place
  | plain
  /-- Behind the value, where only a comment may stand. -/
  | behind
  /-- Between apostrophes. -/
  | strong
  /-- Between quotation marks. -/
  | weak
  /-- Behind a backslash, between quotation marks or not. -/
  | escape (quoted : Bool)
  /-- In a name behind a dollar sign, of which that much was read. -/
  | name (quoted : Bool) (start : List Char)
  /-- In a name between braces. -/
  | braced (quoted : Bool) (start : List Char)
deriving DecidableEq, Repr

/-- The place of plain text, between quotation marks or not. -/
def Place.text (quoted : Bool) : Place := if quoted then .weak else .plain

/-- The character that one behind a backslash stands for. -/
def escaped? (c : Char) : Option Char :=
  if "\\'\"$ ".toList.contains c then some c else if c = 'n' then some '\n' else none

/-- The value of the text behind a place, where `lookup` is the value of a name; none if the text
is malformed. -/
def readValue (lookup : List Char → List Char) : Place → List Char → Option (List Char)
  | .plain, [] => some []
  | .behind, [] => some []
  | .escape false, [] => some []
  | .name false start, [] => some (lookup start)
  | _, [] => none
  | .plain, c :: cs =>
    if c = '$' then readValue lookup (.name false []) cs
    else if c = '\'' then readValue lookup .strong cs
    else if c = '"' then readValue lookup .weak cs
    else if c = '\\' then readValue lookup (.escape false) cs
    else if c = ' ' ∨ c = '\t' then readValue lookup .behind cs
    else (readValue lookup .plain cs).map (c :: ·)
  | .behind, c :: cs =>
    if c = ' ' ∨ c = '\t' then readValue lookup .behind cs
    else if c = '#' then some []
    else none
  | .strong, c :: cs =>
    if c = '\'' then readValue lookup .plain cs else (readValue lookup .strong cs).map (c :: ·)
  | .weak, c :: cs =>
    if c = '$' then readValue lookup (.name true []) cs
    else if c = '"' then readValue lookup .plain cs
    else if c = '\\' then readValue lookup (.escape true) cs
    else (readValue lookup .weak cs).map (c :: ·)
  | .escape quoted, c :: cs =>
    match escaped? c with
    | some d => (readValue lookup (.text quoted) cs).map (d :: ·)
    | none => none
  | .name quoted start, c :: cs =>
    if Text.isAlphanumeric c then readValue lookup (.name quoted (start ++ [c])) cs
    else if c = '\x7b' ∧ start = [] then readValue lookup (.braced quoted []) cs
    else if c = '$' then (readValue lookup (.name quoted []) cs).map (lookup start ++ ·)
    else (readValue lookup (.text quoted) cs).map (lookup start ++ c :: ·)
  | .braced quoted start, c :: cs =>
    if c = '\x7d' then (readValue lookup (.text quoted) cs).map (lookup start ++ ·)
    else readValue lookup (.braced quoted (start ++ [c])) cs

/-! ## Lines -/

/-- What a line says. -/
inductive Line
  | nothing
  | assignment (name value : String)
  | malformed
deriving DecidableEq, Repr

/-- Whether a name may start with a character. -/
def isNameStart (c : Char) : Bool := c.isAlpha || c = '_'

/-- Whether a name may go on with a character. -/
def isNameChar (c : Char) : Bool := c.isAlphanum || c = '_' || c = '.'

/-- A name, and the text behind it and the blanks after it. -/
def readName (s : List Char) : Option (List Char × List Char) :=
  match s with
  | [] => none
  | c :: _ =>
    if isNameStart c then some (s.takeWhile isNameChar, Text.trimStart (s.dropWhile isNameChar))
    else none

/-- The variables behind a dollar sign; one that is not set to text counts as empty. -/
def substitute (e : Environment) (name : List Char) : List Char :=
  ((e.value? (String.ofList name)).getD "").toList

/-- What a line says that assigns to a name, from the equals sign on. -/
def readAssignment (e : Environment) (name : List Char) (s : List Char) : Line :=
  match s with
  | '=' :: s =>
    let s := Text.trimStart s
    if s.isEmpty ∨ s.head? = some '#' then .assignment (String.ofList name) ""
    else
      match readValue e.substitute .plain s with
      | some value => .assignment (String.ofList name) (String.ofList value)
      | none => .malformed
  | _ => .malformed

/-- The word that may stand before an assignment. -/
def exportWord : List Char := "export".toList

/-- What a line says. -/
def readLine (e : Environment) (line : List Char) : Line :=
  let s := Text.trimStart (Text.trimEnd line)
  if s.isEmpty ∨ s.head? = some '#' then .nothing
  else
    match readName s with
    | none => .malformed
    | some (name, rest) =>
      if name = exportWord ∧ rest.head? ≠ some '=' then
        match readName rest with
        | none => .malformed
        | some (name, rest) => e.readAssignment name rest
      else e.readAssignment name rest

end TaintClient.Environment

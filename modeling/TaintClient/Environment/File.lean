/-
  Files of variables. A value between quotation marks may go on over several lines, and blanks at
  the end of a line, too, let it go on; so lines are put together before they are read. A file is
  read up to its first malformed line.
-/
import TaintClient.Environment.Line

namespace TaintClient.Environment

/-! ## Lines -/

/-- Where the search for the end of a line is. -/
inductive Scan
  | plain
  /-- Behind a blank, where a comment may start. -/
  | blank
  | escape
  | strong (escaped : Bool)
  | weak (escaped : Bool)
deriving DecidableEq, Repr

/-- The place behind a character of plain text. -/
def Scan.ofPlain (c : Char) : Scan :=
  if c = '\\' then .escape
  else if c = '"' then .weak false
  else if c = '\'' then .strong false
  else .plain

/-- The place behind a character; none where a comment starts. -/
def Scan.step : Scan → Char → Option Scan
  | .plain, c =>
    if Text.isBlank c ∧ c ≠ '\n' ∧ c ≠ '\r' then some .blank else some (.ofPlain c)
  | .blank, c => if c = '#' then none else some (.ofPlain c)
  | .escape, _ => some .plain
  | .strong false, c =>
    some (if c = '\\' then .strong true else if c = '\'' then .plain else .strong false)
  | .strong true, _ => some (.strong false)
  | .weak false, c =>
    some (if c = '\\' then .weak true else if c = '"' then .plain else .weak false)
  | .weak true, _ => some (.weak false)

/-- A text up to the comment on it, and the place behind it if there is none. -/
def upToComment (p : Scan) : List Char → List Char × Option Scan
  | [] => ([], some p)
  | c :: cs =>
    match p.step c with
    | none => ([], none)
    | some q => let r := upToComment q cs; (c :: r.1, r.2)

/-- The text without the line break at its end. -/
def chomp (s : List Char) : List Char :=
  match s.reverse with
  | '\n' :: '\r' :: r => r.reverse
  | '\n' :: r => r.reverse
  | _ => s

/-- The lines of a text, each with its line feed. -/
def rawLines (s : List Char) : List (List Char) :=
  let ps := Text.pieces s
  ps.dropLast.map (· ++ ['\n']) ++ (ps.getLast?.toList.filter (¬ ·.isEmpty))

/-- Puts lines together, where `start` is what there is of a line up to a place. The end is `none`
if the last line breaks off. -/
def joinLines (start : List Char) (p : Scan) : List (List Char) → List (Option (List Char))
  | [] => if p = .plain then [] else [none]
  | l :: ls =>
    if (Text.trimStart (start ++ l)).head? = some '#' then some [] :: joinLines [] .plain ls
    else
      match upToComment p l with
      | (kept, none) => some (start ++ kept) :: joinLines [] .plain ls
      | (_, some .plain) => some (chomp (start ++ l)) :: joinLines [] .plain ls
      | (_, some q) => joinLines (start ++ l) q ls

/-- The lines of a file. A mark of the order of octets before the first one is skipped. -/
def fileLines (file : String) : List (Option (List Char)) :=
  let s := match file.toList with
    | '\uFEFF' :: s => s
    | s => s
  joinLines [] .plain (rawLines s)

/-! ## Loading -/

/-- The environment after lines, and whether all of them were sound. -/
def loadLines (e : Environment) : List (Option (List Char)) → Environment × Bool
  | [] => (e, true)
  | none :: _ => (e, false)
  | some l :: ls =>
    match e.readLine l with
    | .nothing => loadLines e ls
    | .assignment name value => loadLines (e.setDefault name value) ls
    | .malformed => (e, false)

/-- The environment after the assignments of a file up to its first malformed line, and whether
there was none. -/
def loadFile (e : Environment) (file : String) : Environment × Bool := loadLines e (fileLines file)

/-- The environment after the file of the working directory and, if that is missing or malformed,
the file beside the program. -/
def withFiles (e : Environment) (working beside : Option String) : Environment :=
  let (e, isSound) := match working with
    | some file => e.loadFile file
    | none => (e, false)
  if isSound then e
  else
    match beside with
    | some file => (e.loadFile file).1
    | none => e

/-- The environment that the program goes on with, or the variable that it could not set. -/
def loaded (e : Environment) (working beside : Option String) :
    Except (String × Text.Loose) Environment :=
  let e := e.withFiles working beside
  match e.unholdable? with
  | some unset => .error unset
  | none => .ok e

end TaintClient.Environment

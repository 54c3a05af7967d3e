/-
  Domain names in any script, and their form in ASCII. The characters of a name are changed and
  composed first; then each label is checked and, if it is not ASCII, spelled in Punycode.
-/
import TaintClient.Domain.DirectionTable
import TaintClient.Domain.JoiningTable
import TaintClient.Domain.MappingTable
import TaintClient.Domain.Punycode
import TaintClient.Text.Composition
import TaintClient.Text.Utf8

namespace TaintClient.Domain

/-! ## Changing characters -/

/-- What a character becomes by the change of the range that starts at `low`. -/
def Change.apply (change : Change) (low : Nat) (c : Char) : List Char :=
  let n := c.toNat
  match change with
  | .up k => [Char.ofNat (n + k)]
  | .down k => [Char.ofNat (n - k)]
  | .next => [if (n - low) % 2 = 0 then Char.ofNat (n + 1) else c]
  | .texts ts => (ts[n - low]?).getD []
  | .nothing => []

/-- What a character becomes. Of the ASCII characters the capitals change. -/
def changed (c : Char) : List Char :=
  if c.toNat < 128 then [c.toLower]
  else
    match changes.lastBelow c.toNat 0 changes.rows.size with
    | none => [c]
    | some i =>
      match changes.rows[i]? with
      | none => [c]
      | some row => if c.toNat ≤ row.2.1 then row.2.2.apply row.1 c else [c]

/-- Whether a character can stand in a name as it is. -/
def isPlain (c : Char) : Bool := changed c = [c] && (c.toNat < 128 || !excluded.contains c.toNat)

/-- The ASCII characters that have a meaning of their own around names. -/
def isReserved (c : Char) : Bool :=
  c.toNat ≤ 32 || c.toNat = 127 || "%#/:<>?@[\\]^|".toList.contains c

/-! ## Direction -/

/-- Whether a character makes a name be written in two directions. No ASCII character does. -/
def turns (c : Char) : Bool :=
  128 ≤ c.toNat &&
    match direction c with
    | .right | .arabic | .arabicDigit => true
    | _ => false

/-- The directions of a label without the marks at its end. -/
def directionsOf (label : List Char) : List Direction :=
  (((label.map direction).reverse).dropWhile (· = .mark)).reverse

/-- Whether a label reads the same way in either direction. -/
def readsEitherWay (label : List Char) : Bool :=
  let all := label.map direction
  let ends := (directionsOf label).getLast?
  match all with
  | [] => true
  | .right :: _ | .arabic :: _ =>
    all.all [.right, .arabic, .arabicDigit, .digit, .sign, .separator, .terminator, .neutral,
        .boundary, .mark].contains
      && ends.any [.right, .arabic, .digit, .arabicDigit].contains
      && !(all.contains .digit && all.contains .arabicDigit)
  | .left :: _ =>
    all.all [.left, .digit, .sign, .separator, .terminator, .neutral, .boundary, .mark].contains
      && ends.any [.left, .digit].contains
  | _ => false

/-! ## Joiners -/

/-- The character that keeps the letters beside it apart. -/
def nonJoiner : Char := '\u200C'

/-- The character that joins the letters beside it. -/
def joiner : Char := '\u200D'

/-- The class of the signs that take a vowel away. -/
def viramaClass : Nat := 9

/-- Whether a joiner may stand between these texts; the one before it is backwards. -/
def mayJoin (c : Char) (before after : List Char) : Bool :=
  let afterVirama := before.head?.any (Text.combiningClass · = viramaClass)
  let next (s : List Char) : Option Joining :=
    ((s.map joining).dropWhile (· = .transparent)).head?
  if c = joiner then afterVirama
  else if c = nonJoiner then
    afterVirama || ((next before).any [.left, .both].contains
      && (next after).any [.right, .both].contains)
  else true

/-- Whether every joiner of a label has a reason to be there. -/
def joinsSoundly : List Char → List Char → Bool
  | _, [] => true
  | before, c :: cs => mayJoin c before cs && joinsSoundly (c :: before) cs

/-! ## Labels -/

/-- What a label that is spelled in Punycode begins with. -/
def spelledPrefix : List Char := "xn--".toList

/-- The greatest length of a label to be spelled. -/
def maxPlain : Nat := 1000

/-- Whether a label may stand in a name, its direction apart. -/
def isSound (label : List Char) : Bool :=
  label.all (fun c => isPlain c && !isReserved c && c ≠ '.')
    && Text.composed label = label
    && !label.head?.any Text.isMark
    && !spelledPrefix.isPrefixOf label
    && joinsSoundly [] label

/-- Whether a label is ASCII. -/
def isAscii (label : List Char) : Bool := label.all (·.toNat < 128)

/-- A label as it reads, given as it is written. -/
def readLabel? (label : List Char) : Option (List Char) :=
  if spelledPrefix.isPrefixOf label then
    let spelled := label.drop spelledPrefix.length
    if ¬ isAscii spelled then none
    else
      match Punycode.decode spelled with
      | none => none
      | some read => if ¬ isAscii read ∧ isSound read then some read else none
  else if isSound label then some label
  else none

/-- A label in ASCII, given as it reads. -/
def writeLabel? (label : List Char) : Option (List Char) :=
  if isAscii label then some label
  else if maxPlain < label.length then none
  else some (spelledPrefix ++ Punycode.encode label)

/-- Labels with points between them. -/
def joinLabels (labels : List (List Char)) : List Char := ['.'].intercalate labels

/-- The ASCII form of a name. -/
def toAscii? (name : List Char) : Option (List Char) :=
  let name := Text.composed (name.flatMap changed)
  match (name.splitOn '.').mapM readLabel? with
  | none => none
  | some labels =>
    if labels.any (·.any turns) ∧ ¬ labels.all readsEitherWay then none
    else (labels.mapM writeLabel?).map joinLabels

end TaintClient.Domain

/-
  Which notes are printed. A directive sets a limit for the targets that start with its name; of
  the directives for a target the one with the longest name counts. The program's own directives
  take the place of those of the same name. What regular expressions are is left open: the filter
  asks whoever reads them.
-/
import TaintClient.Log.Record
import TaintClient.Text.Blank

namespace TaintClient.Log

/-- The least important level that is printed; `none` is for nothing at all. -/
abbrev Limit := Option Level

/-- Whether a limit lets a level pass. -/
def passes (limit : Limit) (l : Level) : Bool :=
  match limit with
  | none => false
  | some m => l.rank ≤ m.rank

/-- A limit for the targets that start with a name; without a name, for all. -/
structure Directive where
  name : Option String
  limit : Limit
deriving DecidableEq, Repr

/-- A reader of regular expressions: of a text it makes a test of texts, or says why it cannot. -/
abbrev Regex := String → Except String (String → Bool)

/-- Which notes are printed: by directives, and by a test of their message. -/
structure Filter where
  directives : List Directive := []
  pattern : Option (String → Bool) := none

namespace Filter

/-- Adds a directive, in the place of one of the same name if there is one. -/
def insert (f : Filter) (d : Directive) : Filter :=
  if f.directives.any (·.name = d.name) then
    { f with directives := f.directives.map fun e => if e.name = d.name then d else e }
  else { f with directives := f.directives ++ [d] }

/-- The length of the name of a directive. -/
def specificity (d : Directive) : Nat := (d.name.getD "").length

/-- Whether a directive is for a target. -/
def covers (d : Directive) (target : String) : Bool :=
  (d.name.getD "").toList.isPrefixOf target.toList

/-- The more specific one of two directives, the second one if they are alike. -/
def moreSpecific (best : Option Directive) (d : Directive) : Option Directive :=
  match best with
  | none => some d
  | some b => if specificity b ≤ specificity d then some d else some b

/-- The directive that counts for a target. -/
def directiveFor? (f : Filter) (target : String) : Option Directive :=
  (f.directives.filter (covers · target)).foldl moreSpecific none

/-- Whether notes of a level are printed for a target. -/
def enables (f : Filter) (target : String) (l : Level) : Bool :=
  match f.directiveFor? target with
  | some d => passes d.limit l
  | none => false

/-- Whether a note is printed. -/
def admits (f : Filter) (r : Record) : Bool :=
  f.enables r.source.target r.level &&
    match f.pattern with
    | some occurs => occurs r.message
    | none => true

/-! ## Reading -/

/-- What is wrong with the text of directives. -/
inductive Warning
  /-- There is more than one pattern. -/
  | tooManyParts (spec : List Char)
  | badDirective (part : List Char)
  | badPattern (why : String)
deriving DecidableEq, Repr

/-- The wording of a warning. -/
def Warning.message : Warning → String
  | .tooManyParts spec => "invalid logging spec '" ++ String.ofList spec ++ "' (too many '/'s)"
  | .badDirective part => "invalid logging spec '" ++ String.ofList part ++ "'"
  | .badPattern why => "invalid regex filter - " ++ why

/-- The limit that a word stands for, in any mixture of capitals and small letters. -/
def limit? (word : List Char) : Option Limit :=
  let upper := String.ofList (word.map Char.toUpper)
  if upper = "OFF" then some none else (Level.all.find? (·.text = upper)).map some

/-- The directive of a part: a limit, a name, or a name with a limit. -/
def readDirective (part : List Char) : Except Warning Directive :=
  match Text.split '=' part with
  | [word] =>
    match limit? word with
    | some limit => .ok ⟨none, limit⟩
    | none => .ok ⟨some (String.ofList word), some .trace⟩
  | [name, word] =>
    let name := some (String.ofList name)
    let word := Text.trim word
    if word.isEmpty then .ok ⟨name, some .trace⟩
    else
      match limit? word with
      | some limit => .ok ⟨name, limit⟩
      | none => .error (.badDirective word)
  | _ => .error (.badDirective part)

/-- Adds what a part says, or warns of it. -/
def addPart (acc : Filter × List Warning) (part : List Char) : Filter × List Warning :=
  match readDirective part with
  | .ok d => (acc.1.insert d, acc.2)
  | .error w => (acc.1, acc.2 ++ [w])

/-- The filter of directives that are separated by commas, with a pattern behind a slash. -/
def read (regex : Regex) (spec : String) : Filter × List Warning :=
  match Text.split '/' spec.toList with
  | [] => ({}, [])
  | directives :: patterns =>
    let parts := ((Text.split ',' directives).map Text.trim).filter (!·.isEmpty)
    match patterns with
    | [] => parts.foldl addPart ({}, [])
    | [pattern] =>
      let acc := parts.foldl addPart ({}, [])
      match regex (String.ofList pattern) with
      | .ok occurs => ({ acc.1 with pattern := some occurs }, acc.2)
      | .error why => (acc.1, acc.2 ++ [.badPattern why])
    | _ => ({}, [.tooManyParts spec.toList])

/-! ## The program's filter -/

/-- The name that the targets of the program start with. -/
def programName : String := "taint_analyze"

/-- The variable that holds directives. -/
def directivesVariable : String := "RUST_LOG"

/-- The filter at a level: the directives of the environment, but the program's own level in the
place of the general one and of the one for the program. -/
def atLevel (regex : Regex) (spec : Option String) (level : Level) : Filter × List Warning :=
  let (f, warnings) := match spec with
    | some spec => read regex spec
    | none => ({}, [])
  ((f.insert ⟨none, some level⟩).insert ⟨some programName, some level⟩, warnings)

end Filter

end TaintClient.Log

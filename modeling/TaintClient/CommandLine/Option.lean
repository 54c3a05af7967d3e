/-
  The options of the command line, what their values may be, and what can be wrong with them.
-/
import TaintClient.Config

namespace TaintClient.CommandLine

/-- The options. -/
inductive Key
  | mode
  | code
  | codeFile
  | input
  | name
  | demo
  | endpoint
  | timeoutSeconds
  | output
  | logLevel
  | logFormat
deriving DecidableEq, Repr

namespace Key

/-- Every option, in the order of the help text. -/
def all : List Key :=
  [.mode, .code, .codeFile, .input, .name, .demo, .endpoint, .timeoutSeconds, .output, .logLevel,
    .logFormat]

/-- The word for an option, behind two hyphens. -/
def word : Key → String
  | .mode => "mode"
  | .code => "code"
  | .codeFile => "code-file"
  | .input => "input"
  | .name => "name"
  | .demo => "demo"
  | .endpoint => "endpoint"
  | .timeoutSeconds => "timeout-seconds"
  | .output => "output"
  | .logLevel => "log-level"
  | .logFormat => "log-format"

/-- The option of a word, which has to be written out. -/
def ofWord? (s : String) : Option Key := all.find? (·.word = s)

/-- Whether an option takes a value. -/
def takesValue (k : Key) : Bool := k ≠ .demo

/-- The name of the value. -/
def valueName (k : Key) : String :=
  String.ofList (k.word.toList.map fun c => if c = '-' then '_' else c.toUpper)

/-- An option as it is written. -/
def usage (k : Key) : String :=
  "--" ++ k.word ++ if k.takesValue then " <" ++ k.valueName ++ ">" else ""

/-- The words that the value may be, if it has to be one of some. -/
def choices : Key → List String
  | .mode => Mode.all.map Mode.name
  | .output => OutputFormat.all.map OutputFormat.word
  | .logLevel => Log.Level.all.map Log.Level.word
  | .logFormat => LogFormat.all.map LogFormat.word
  | _ => []

/-- The options that an option cannot stand with, said once for each pair. -/
def excludes : Key → List Key
  | .code => [.codeFile, .demo]
  | .codeFile => [.demo]
  | .input => [.demo]
  | _ => []

/-- Whether two options cannot stand together. -/
def conflicts (a b : Key) : Bool := a.excludes.contains b || b.excludes.contains a

theorem ofWord_word (k : Key) : ofWord? k.word = some k := by cases k <;> decide

end Key

/-- An option with its value. -/
inductive Setting
  | mode (m : Mode)
  | code (s : String)
  | codeFile (path : Text.Loose)
  | input (s : String)
  | name (s : String)
  | demo
  | endpoint (s : String)
  | timeoutSeconds (n : UInt64)
  | output (f : OutputFormat)
  | logLevel (l : Log.Level)
  | logFormat (f : LogFormat)
deriving DecidableEq, Repr

/-- The option of a setting. -/
def Setting.key : Setting → Key
  | .mode _ => .mode
  | .code _ => .code
  | .codeFile _ => .codeFile
  | .input _ => .input
  | .name _ => .name
  | .demo => .demo
  | .endpoint _ => .endpoint
  | .timeoutSeconds _ => .timeoutSeconds
  | .output _ => .output
  | .logLevel _ => .logLevel
  | .logFormat _ => .logFormat

/-- Why a text is no number of sixty-four bits. -/
inductive NumberFault
  | empty
  | badDigit
  | tooLarge
deriving DecidableEq, Repr

/-- The wording of a fault. -/
def NumberFault.message : NumberFault → String
  | .empty => "cannot parse integer from empty string"
  | .badDigit => "invalid digit found in string"
  | .tooLarge => "number too large to fit in target type"

/-- What is wrong with a command line. -/
inductive Fault
  /-- There is no such option, or no place for a value. -/
  | unknown (argument : String)
  | valueMissing (key : Key)
  | badChoice (key : Key) (value : String)
  | badNumber (key : Key) (value : String) (why : NumberFault)
  /-- A value is no text. -/
  | notText
  /-- A word that takes no value was given one. -/
  | unneededValue (word value : String)
  | repeated (key : Key)
  | conflict (key : Key) (others : List Key)
deriving DecidableEq, Repr

/-- The line with the words that a value may be. -/
def choicesText (k : Key) : String :=
  if k.choices.isEmpty then ""
  else "\n  [possible values: " ++ ", ".intercalate k.choices ++ "]"

/-- The wording of a fault. -/
def Fault.message : Fault → String
  | .unknown argument => "error: unexpected argument '" ++ argument ++ "' found"
  | .valueMissing key =>
    "error: a value is required for '" ++ key.usage ++ "' but none was supplied" ++ choicesText key
  | .badChoice key value =>
    "error: invalid value '" ++ value ++ "' for '" ++ key.usage ++ "'" ++ choicesText key
  | .badNumber key value why =>
    "error: invalid value '" ++ value ++ "' for '" ++ key.usage ++ "': " ++ why.message
  | .notText => "error: invalid UTF-8 was detected in one or more arguments"
  | .unneededValue word value =>
    "error: unexpected value '" ++ value ++ "' for '--" ++ word
      ++ "' found; no more were expected"
  | .repeated key => "error: the argument '" ++ key.usage ++ "' cannot be used multiple times"
  | .conflict key others =>
    "error: the argument '" ++ key.usage ++ "' cannot be used with"
      ++ match others with
        | [other] => " '" ++ other.usage ++ "'"
        | others => ":" ++ "".intercalate (others.map fun k => "\n  " ++ k.usage)

end TaintClient.CommandLine

/-
  The texts that explain the command line: in a few lines, or at length.
-/
import TaintClient.CommandLine.Reader
import TaintClient.Text.Blank
import TaintClient.Text.Terminal

namespace TaintClient.CommandLine

/-- The name and the version of the program. -/
def versionText : String := "taint_analyze 0.1.0\n"

/-- What an option is for. -/
def Key.purpose : Key → String
  | .mode => "What the code argument holds"
  | .code => "Solidity source or runtime bytecode (hex)"
  | .codeFile => "Read the code from a file instead"
  | .input => "Call data passed to the contract (hex, selector first)"
  | .name => "Contract name to pick from the compiled Solidity source"
  | .demo => "Analyze the bundled overflow demo contract"
  | .endpoint => "Base URL of the analysis service"
  | .timeoutSeconds => "Per-request timeout in seconds"
  | .output => "Report output format"
  | .logLevel => "Log level"
  | .logFormat => "Log format"

/-- What an option is unless it is set. -/
def Key.default? : Key → Option String
  | .mode => some Mode.bytecode.name
  | .input => some "\"\""
  | .endpoint => some defaultEndpoint
  | .timeoutSeconds => some (toString defaultTimeout)
  | .output => some OutputFormat.text.word
  | .logLevel => some Log.Level.info.word
  | .logFormat => some LogFormat.plain.word
  | .code | .codeFile | .name | .demo => none

/-- What the words for a value stand for. -/
def Key.meanings : Key → List (String × String)
  | .mode =>
    [("solidity", "Solidity source, compiled by the service before analysis"),
      ("bytecode", "Runtime bytecode as hex")]
  | .output =>
    [("text", "Title and report text with markup stripped"),
      ("html", "The HTML fragment the result region would hold")]
  | .logLevel =>
    [("error", "Only error messages"), ("warn", "Error and warning messages"),
      ("info", "Error, warning, and informational messages"),
      ("debug", "All messages except trace"), ("trace", "All messages including trace")]
  | .logFormat =>
    [("plain", "Human-readable format with colors (default)"),
      ("json", "Structured JSON format for machine parsing")]
  | _ => []

/-- The indentation of what is said about an option. -/
def indentation : String := "          "

/-- A text whose further lines are indented. -/
def indented (s : String) : String :=
  String.ofList (s.toList.flatMap fun c => if c = '\n' then '\n' :: indentation.toList else [c])

/-- The environment variable of an option and its value. -/
def environmentNote (value : Option String) : Key → List String
  | .endpoint => ["[env: " ++ endpointVariable ++ "=" ++ indented (value.getD "") ++ "]"]
  | _ => []

/-- The notes behind the purpose of an option. -/
def notes (value : Option String) (k : Key) : List String :=
  environmentNote value k ++ k.default?.toList.map fun s => "[default: " ++ s ++ "]"

/-- The note on the words that a value may be. -/
def choicesNote (k : Key) : List String :=
  if k.choices.isEmpty then []
  else ["[possible values: " ++ ", ".intercalate k.choices ++ "]"]

/-! ## In a few lines -/

/-- An option in a few lines. -/
def shortEntry (value : Option String) (k : Key) : String :=
  "      " ++ k.usage ++ "\n" ++ indentation
    ++ " ".intercalate ([k.purpose] ++ notes value k ++ choicesNote k) ++ "\n"

/-- The help text in a few lines. -/
def shortHelp (value : Option String) : String :=
  "Submit a contract to the taint analysis service and print the overflow report\n\n"
    ++ "Usage: taint_analyze [OPTIONS]\n\nOptions:\n"
    ++ "".intercalate (Key.all.map (shortEntry value))
    ++ "  -h, --help\n          Print help (see more with '--help')\n"
    ++ "  -V, --version\n          Print version\n"

/-! ## At length -/

/-- A word for a value and what it stands for, in a column of that width. -/
def meaningLine (width : Nat) (m : String × String) : String :=
  indentation ++ "- " ++ m.1 ++ ":"
    ++ String.ofList (List.replicate (width - m.1.length) ' ') ++ " " ++ m.2 ++ "\n"

/-- The words for a value and what they stand for. -/
def meaningsBlock (k : Key) : String :=
  if k.meanings.isEmpty then ""
  else
    let width := k.meanings.foldl (fun n m => max n m.1.length) 0
    "\n" ++ indentation ++ "Possible values:\n"
      ++ "".intercalate (k.meanings.map (meaningLine width))

/-- The notes at length, behind a line without text. -/
def notesBlock (value : Option String) (k : Key) : String :=
  match notes value k with
  | [] => ""
  | ns => indentation ++ "\n" ++ "".intercalate (ns.map fun n => indentation ++ n ++ "\n")

/-- An option at length. -/
def longEntry (value : Option String) (k : Key) : String :=
  "      " ++ k.usage ++ "\n" ++ indentation ++ k.purpose ++ "\n" ++ meaningsBlock k
    ++ notesBlock value k ++ "\n"

/-- What the help text at length begins with. -/
def longAbout : String :=
  "Client configuration.\n\nParsed from the command line by the binary, or built programmatically "
    ++ "with `..Default::default()`.\n\n# Examples\n\n"
    ++ "```no_run use taint_analyze::\x7bConfig, Mode\x7d;\n\n"
    ++ "let config = Config \x7b mode: Mode::Bytecode, code: Some(\"6080604052\".to_string()), "
    ++ "input: \"b79e70ed\".to_string(), ..Default::default() \x7d; ```\n\n"

/-- The help text at length. -/
def longHelp (value : Option String) : String :=
  longAbout ++ "Usage: taint_analyze [OPTIONS]\n\nOptions:\n"
    ++ "".intercalate (Key.all.map (longEntry value))
    ++ "  -h, --help\n          Print help (see a summary with '-h')\n\n"
    ++ "  -V, --version\n          Print version\n"

/-- A text as a terminal may show it. -/
def visible (s : String) : String := String.ofList (Text.Terminal.visible s.toList)

/-- The help text; `value` is that of the environment variable. -/
def helpText (isLong : Bool) (value : Option String) : String :=
  visible (if isLong then longHelp value else shortHelp value)

/-- The text about a fault up to the first empty line, which is all that is shown of it. -/
def faultText (f : Fault) : String :=
  let lines := Text.pieces (visible f.message).toList
  String.ofList (Text.trimEnd (['\n'].intercalate (lines.takeWhile (!·.isEmpty))))

end TaintClient.CommandLine

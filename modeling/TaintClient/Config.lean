/-
  What the program is asked to do: what to analyse, where, and how to report it.
-/
import TaintClient.Log.Record
import TaintClient.Mode
import TaintClient.Text.Loose

namespace TaintClient

/-- How the report is written. -/
inductive OutputFormat
  | text
  | html
deriving DecidableEq, Repr

namespace OutputFormat

/-- Every format. -/
def all : List OutputFormat := [.text, .html]

/-- The word for a format. -/
def word : OutputFormat → String
  | .text => "text"
  | .html => "html"

end OutputFormat

/-- How notes are written. -/
inductive LogFormat
  | plain
  | json
deriving DecidableEq, Repr

namespace LogFormat

/-- Every format. -/
def all : List LogFormat := [.plain, .json]

/-- The word for a format. -/
def word : LogFormat → String
  | .plain => "plain"
  | .json => "json"

end LogFormat

/-- The word for a level. -/
def Log.Level.word : Log.Level → String
  | .error => "error"
  | .warn => "warn"
  | .info => "info"
  | .debug => "debug"
  | .trace => "trace"

/-- The server that requests are sent to unless another one is named. -/
def defaultEndpoint : String := "http://127.0.0.1:5000"

/-- The variable that names another one. -/
def endpointVariable : String := "TAINT_ANALYZE_ENDPOINT"

/-- How long an answer may take, in seconds, unless another time is named. -/
def defaultTimeout : UInt64 := 60

/-- What the program is asked to do. -/
structure Config where
  mode : Mode := .bytecode
  code : Option String := none
  /-- The file that holds the code. -/
  codeFile : Option Text.Loose := none
  input : String := ""
  /-- The contract to pick from compiled source. -/
  name : Option String := none
  /-- Whether to analyse the bundled contract. -/
  demo : Bool := false
  endpoint : String := defaultEndpoint
  timeoutSeconds : UInt64 := defaultTimeout
  output : OutputFormat := .text
  logLevel : Log.Level := .info
  logFormat : LogFormat := .plain
deriving DecidableEq, Repr

end TaintClient

/-
  The program from its arguments and variables to what it prints: the report on one stream, and
  notes and complaints on the other.
-/
import TaintClient.CommandLine.Help
import TaintClient.Environment.File
import TaintClient.Log.Filter
import TaintClient.Log.Printer
import TaintClient.Run
import TaintClient.Text.Quoted

namespace TaintClient.Program

/-- What the program tells its user beside the report. -/
inductive Notice
  | line (text : String)
  /-- A line with the time that the analysis took behind it. -/
  | timed (text : String)
  | record (format : LogFormat) (r : Log.Record)
deriving DecidableEq, Repr

/-- The times that notices tell. -/
structure Clock where
  /-- The time of day. -/
  time : String
  /-- The same in milliseconds. -/
  milliseconds : Int
  /-- The seconds that the analysis took. -/
  elapsed : String

/-- A notice as a line. -/
def Notice.text (clock : Clock) : Notice → String
  | .line text => text
  | .timed text => text ++ " (" ++ clock.elapsed ++ "s)"
  | .record .plain r => r.plainLine clock.time
  | .record .json r => r.jsonLine clock.milliseconds

/-- What the program comes to. -/
structure Outcome where
  exitCode : Nat
  /-- What is printed on the stream of the report. -/
  output : String := ""
  notices : List Notice := []
deriving DecidableEq, Repr

/-- What is printed of a report. -/
def reportText (format : OutputFormat) (s : Run.Summary) : String :=
  match format with
  | .html => s.html ++ "\n"
  | .text => s.text.getD ""

/-- What the user is told when the report is shown. -/
def closing (s : Run.Summary) : Notice :=
  if s.serviceFailure then .timed "warning: the service could not analyze this input"
  else .timed ("done: " ++ s.title.getD "report received")

/-- What the user is told when there is no report. -/
def complaints (s : Run.Summary) : List Notice :=
  if s.alerts.isEmpty then
    [.line ("error: analysis ended without a report (" ++ s.state.name ++ ")")]
  else s.alerts.map fun a => .line ("alert: " ++ a)

/-- What an analysis comes to. -/
def conclude (format : OutputFormat) : Except Run.Fault Run.Summary → Outcome
  | .error f => ⟨1, "", [.line ("taint_analyze error: " ++ f.message)]⟩
  | .ok s =>
    if s.state = .rendered then ⟨0, reportText format s, [closing s]⟩ else ⟨1, "", complaints s⟩

/-- The notice of a warning about the directives for notes. -/
def warningNotice (w : Log.Filter.Warning) : Notice :=
  .line ("warning: " ++ w.message ++ ", ignoring it")

/-- The notices of the notes that are printed. -/
def noteNotices (regex : Log.Regex) (e : Environment) (c : Config) (notes : List Log.Record) :
    List Notice :=
  let (filter, warnings) :=
    Log.Filter.atLevel regex (e.value? Log.Filter.directivesVariable) c.logLevel
  warnings.map warningNotice ++ (notes.filter filter.admits).map (.record c.logFormat)

/-- The program with its configuration. -/
def analyze {m : Type → Type} [Monad m] (send : Http.Request → m Http.Reply) (files : Files)
    (regex : Log.Regex) (e : Environment) (c : Config) : m Outcome := do
  let o ← Run.perform send files c
  let outcome := conclude c.output o.result
  pure { outcome with notices := noteNotices regex e c o.notes ++ outcome.notices }

/-- What the arguments ask for. -/
def command (e : Environment) (arguments : List Text.Loose) :
    Except CommandLine.Fault CommandLine.Command :=
  CommandLine.read (e.held? endpointVariable) arguments

/-- The program with its variables, after the files of variables were loaded. -/
def perform {m : Type → Type} [Monad m] (send : Http.Request → m Http.Reply) (files : Files)
    (regex : Log.Regex) (e : Environment) (arguments : List Text.Loose) : m Outcome :=
  match command e arguments with
  | .error f => pure ⟨2, "", [.line (CommandLine.faultText f)]⟩
  | .ok (.help isLong) =>
    pure ⟨0, CommandLine.helpText isLong ((e.held? endpointVariable).map Text.Loose.shown), []⟩
  | .ok .version => pure ⟨0, CommandLine.versionText, []⟩
  | .ok (.run c) => analyze send files regex e c

/-- What is said of a variable that cannot be set. -/
def unsetText (name : String) (held : Text.Loose) : String :=
  let quoted (s : String) := String.ofList (Text.Quoted.quote s.toList)
  "failed to set environment variable `" ++ quoted name ++ "` to `" ++ quoted held.shown
    ++ "`: file name contained an unexpected NUL byte"

/-- The program with the variables that it is started with and the files of variables. It breaks off
where one of these cannot be set. -/
def start {m : Type → Type} [Monad m] (send : Http.Request → m Http.Reply) (files : Files)
    (regex : Log.Regex) (e : Environment) (working beside : Option String)
    (arguments : List Text.Loose) : m Outcome :=
  match e.loaded working beside with
  | .error (name, held) => pure ⟨101, "", [.line (unsetText name held)]⟩
  | .ok e => perform send files regex e arguments

end TaintClient.Program

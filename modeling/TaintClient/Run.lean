/-
  One analysis from a configuration to a report: the request is put together, submitted on a fresh
  page, and what the page shows in the end is the report.
-/
import TaintClient.Config
import TaintClient.Demo
import TaintClient.Exchange
import TaintClient.Files
import TaintClient.Report.PlainText
import TaintClient.Session

namespace TaintClient.Run

/-- Why there is no analysis. -/
inductive Fault
  /-- The configuration names no code. -/
  | noCode
  | unreadable (path : Text.Loose) (why : FileFault)
  | badEndpoint (base : String) (why : Url.Fault)
  /-- The page shows a report, but not whose. -/
  | lostResponse

/-- The wording of a fault, the cause behind what it prevented. -/
def Fault.message : Fault → String
  | .noCode => "No code given: use --code, --code-file or --demo"
  | .unreadable path why => "Failed to read code file " ++ path.shown ++ ": " ++ why.message
  | .badEndpoint base why =>
    "Invalid endpoint " ++ base ++ ": " ++ (Failure.invalidEndpoint why).message ++ ": "
      ++ why.message
  | .lostResponse => "Rendered submission left no response"

/-- What an analysis ended in. -/
structure Summary where
  state : SubmissionState
  /-- What the region shows. -/
  html : String
  /-- The report as text. -/
  text : Option String := none
  title : Option String := none
  /-- Whether the service could not carry out the analysis. -/
  serviceFailure : Bool := false
  alerts : List String := []
deriving DecidableEq, Repr

/-! ## The request -/

/-- The code of a configuration. -/
def code (files : Files) (c : Config) : Except Fault String :=
  match c.code, c.codeFile with
  | some code, _ => .ok code
  | none, some path => (files.text path).mapError (.unreadable path)
  | none, none => .error .noCode

/-- The request of a configuration. -/
def request (files : Files) (c : Config) : Except Fault Request :=
  if c.demo then .ok ⟨c.mode, demoCode, demoInput, c.name⟩
  else (code files c).map fun s => ⟨c.mode, s, c.input, c.name⟩

/-! ## The submission -/

/-- The note that goes before the submission. -/
def analyzing (m : Mode) (endpoint : Url) : Log.Record :=
  ⟨.info, .run, "Analyzing " ++ m.name ++ " with " ++ toString endpoint⟩

/-- What a page says about a submission that ended in a state. -/
def summarize (p : Panel) (state : SubmissionState) : Except Fault Summary :=
  let summary : Summary := { state := state, html := p.html, alerts := p.alerts }
  if state = .rendered then
    match p.lastResponse with
    | none => .error .lostResponse
    | some r =>
      .ok { summary with
        text := some (Report.plainText r), title := r.title, serviceFailure := r.isFailure }
  else .ok summary

/-- The session of a run after its submission was sent and what came of it was applied. -/
def afterExchange (endpoint : Url) (r : Request) (o : Exchange.Outcome) : Session × Nat :=
  let (s, id) := (Session.fresh endpoint default (.fresh .plain)).submit r
  ((s.addNotes o.notes).complete id (some o.result), id)

/-- What a run came to, and the notes on it. -/
structure Outcome where
  result : Except Fault Summary
  notes : List Log.Record := []

/-- One analysis. What is wrong with the request counts before what is wrong with the endpoint,
and in both cases nothing is sent. -/
def perform {m : Type → Type} [Monad m] (send : Http.Request → m Http.Reply) (files : Files)
    (c : Config) : m Outcome :=
  match request files c with
  | .error f => pure ⟨.error f, []⟩
  | .ok r =>
    match endpoint c.endpoint with
    | .error f => pure ⟨.error (.badEndpoint c.endpoint f), []⟩
    | .ok u => do
      let (s, id) := afterExchange u r (← Exchange.analyze send u r)
      let result := summarize s.panel ((s.state? id).getD .idle)
      pure ⟨result, analyzing c.mode u :: s.notes⟩

end TaintClient.Run

/-
  Submissions to one endpoint that share one page. A session moves by critical sections: each
  holds one lock and is not interrupted. A submission marks the page, is given a number, takes the
  place of the one before if the session is so minded, and is launched; later it is completed.
-/
import TaintClient.Panel
import TaintClient.Request

namespace TaintClient

/-- What a new submission does to the one before it. -/
inductive ResubmitPolicy
  /-- Both go on; the last one to be completed is shown. -/
  | lastResponseWins
  /-- The one before is cancelled. -/
  | cancelPrevious
deriving DecidableEq, Repr

instance : Inhabited ResubmitPolicy := ⟨.lastResponseWins⟩

/-- A submission. -/
structure Submission where
  request : Request
  isCancelled : Bool := false
  state : SubmissionState := .idle
deriving DecidableEq, Repr

/-- Submissions to one endpoint that share one page. -/
structure Session where
  endpoint : Url
  policy : ResubmitPolicy
  panel : Panel
  /-- The number of the submission that a new one cancels. -/
  inFlight : Option Nat := none
  /-- The submissions by number. -/
  submissions : List Submission := []
  /-- The notes, the oldest first. -/
  notes : List Log.Record := []
deriving Repr

namespace Session

/-- A session without submissions. -/
def fresh (endpoint : Url) (policy : ResubmitPolicy) (panel : Panel) : Session :=
  { endpoint := endpoint, policy := policy, panel := panel }

/-- Adds notes. -/
def addNotes (s : Session) (notes : List Log.Record) : Session := { s with notes := s.notes ++ notes }

/-- A note of the session. -/
def note (level : Log.Level) (message : String) : Log.Record := ⟨level, .session, message⟩

/-! ## Critical sections -/

/-- Marks the page for a submission of a mode. -/
def mark (s : Session) (m : Mode) : Session := { s with panel := s.panel.start m }

/-- Takes the mark of a mode back. -/
def unmark (s : Session) (m : Mode) : Session := { s with panel := s.panel.abandon m }

/-- Gives a request the next number. -/
def enrol (s : Session) (r : Request) : Session × Nat :=
  ({ s with submissions := s.submissions ++ [{ request := r }] }, s.submissions.length)

/-- Puts a submission in the place of the one before, which is the answer. -/
def replace (s : Session) (id : Nat) : Session × Option Nat :=
  match s.policy with
  | .lastResponseWins => (s, none)
  | .cancelPrevious => ({ s with inFlight := some id }, s.inFlight)

/-- Changes a submission. -/
def modify (s : Session) (id : Nat) (f : Submission → Submission) : Session :=
  { s with submissions := s.submissions.modify id f }

/-- Cancels a submission. -/
def cancel (s : Session) (id : Nat) : Session := s.modify id ({ · with isCancelled := true })

/-- The note on a launch. -/
def submittedNote (endpoint : Url) (m : Mode) : Log.Record :=
  note .info <| "Submitted " ++ m.name ++ " analysis to " ++ toString endpoint

/-- Launches a submission. -/
def launch (s : Session) (id : Nat) (m : Mode) : Session :=
  (s.modify id ({ · with state := .submitted })).addNotes [submittedNote s.endpoint m]

/-- The note on a submission that was completed. -/
def finishedNote (m : Mode) (state : SubmissionState) : Log.Record :=
  note .info <| m.name ++ " analysis finished: " ++ state.name

/-- The note on a submission that another one took the place of. -/
def supersededNote (m : Mode) : Log.Record :=
  note .debug <| m.name ++ " analysis superseded by a newer submission"

/-- Ends a submission of a mode without any trace on the page. -/
def supersede (s : Session) (id : Nat) (m : Mode) : Session :=
  ((s.unmark m).modify id ({ · with state := .superseded })).addNotes [supersededNote m]

/-- Ends a submission of a mode with what came of it. -/
def apply (s : Session) (id : Nat) (m : Mode) (result : Except Failure Response) : Session :=
  let (state, panel, notes) := s.panel.finish m result
  ({ s with panel := panel }.modify id ({ · with state := state })).addNotes
    (notes ++ [finishedNote m state])

/-- Completes a submission with what came of it, or with nothing because it was cancelled before
anything came. A cancelled submission shows nothing, whatever came of it; one that was not goes on
until something comes. -/
def complete (s : Session) (id : Nat) (result : Option (Except Failure Response)) : Session :=
  match s.submissions[id]? with
  | none => s
  | some sub =>
    if sub.state ≠ .submitted then s
    else if sub.isCancelled then s.supersede id sub.request.mode
    else
      match result with
      | none => s
      | some result => s.apply id sub.request.mode result

/-- Alerts the user of the page. -/
def alert (s : Session) (message : String) : Session := { s with panel := s.panel.alert message }

/-! ## Submitting -/

/-- Submits a request whose page is marked, and gives its number. -/
def dispatch (s : Session) (r : Request) : Session × Nat :=
  let (s, id) := s.enrol r
  let (s, previous) := s.replace id
  let s := match previous with
    | some p => s.cancel p
    | none => s
  (s.launch id r.mode, id)

/-- Submits a request. -/
def submit (s : Session) (r : Request) : Session × Nat := (s.mark r.mode).dispatch r

/-- Submits code and input without the name of a contract. -/
def submitAnalysis (s : Session) (m : Mode) (code input : String) : Session × Nat :=
  s.submit ⟨m, code, input, none⟩

/-- Submits what a page holds for a mode. The page is marked before it is read; where an element
is missing the mark is taken back, and nothing is submitted. -/
def submitForm (s : Session) (m : Mode) (f : Form) : Session × Except Failure Nat :=
  let s := s.mark m
  match f.request m with
  | .error id => (s.unmark m, .error (.missingElement id))
  | .ok r =>
    let (s, id) := s.dispatch r
    (s, .ok id)

/-- Where a submission stands. -/
def state? (s : Session) (id : Nat) : Option SubmissionState := s.submissions[id]?.map (·.state)

end Session

end TaintClient

/-
  The part of the page that submissions write to: the region with the result, a label for each
  mode, and the alerts so far. Whatever is written last stands.
-/
import TaintClient.Failure
import TaintClient.Log.Record
import TaintClient.Mode
import TaintClient.Report.Html

namespace TaintClient

/-- Where a submission stands. -/
inductive SubmissionState
  | idle
  | submitted
  /-- Its report is shown. -/
  | rendered
  /-- The exchange failed, and the user was alerted. -/
  | alerted
  /-- Its answer could not be used. -/
  | faulted
  /-- A newer submission took its place. -/
  | superseded
deriving DecidableEq, Repr

namespace SubmissionState

/-- Every state. -/
def all : List SubmissionState := [.idle, .submitted, .rendered, .alerted, .faulted, .superseded]

/-- The name of a state. -/
def name : SubmissionState → String
  | .idle => "Idle"
  | .submitted => "Submitted"
  | .rendered => "Rendered"
  | .alerted => "Alerted"
  | .faulted => "Faulted"
  | .superseded => "Superseded"

/-- Whether a submission stays in the state. -/
def isTerminal : SubmissionState → Bool
  | .idle | .submitted => false
  | _ => true

end SubmissionState

/-- How a page shows that a submission is under way: in the region, or on the label of its mode. -/
inductive PageVariant
  | plain
  | report
deriving DecidableEq, Repr

instance : Inhabited PageVariant := ⟨.plain⟩

/-- The label of a mode, and the number of submissions that hold it. -/
structure StatusLabel where
  ownText : String
  current : String
  inFlight : Nat := 0
deriving DecidableEq, Repr

/-- What a label says before anything is submitted. -/
def defaultLabelText : String := "Analyze"

namespace StatusLabel

/-- A label that no submission holds. -/
def ofText (text : String) : StatusLabel := ⟨text, text, 0⟩

/-- Holds the label for one more submission. -/
def hold (l : StatusLabel) : StatusLabel :=
  { l with current := Report.analyzingText, inFlight := l.inFlight + 1 }

/-- Gives the label back for one submission; the last one brings back its text. -/
def release (l : StatusLabel) : StatusLabel :=
  let n := l.inFlight - 1
  { l with current := if n = 0 then l.ownText else l.current, inFlight := n }

end StatusLabel

/-- The part of the page that submissions write to. -/
structure Panel where
  variant : PageVariant
  /-- What the region shows. -/
  html : String := ""
  /-- The response that the region shows, if it shows one. -/
  lastResponse : Option Response := none
  solidityLabel : StatusLabel := .ofText defaultLabelText
  bytecodeLabel : StatusLabel := .ofText defaultLabelText
  /-- The alerts, the oldest first. -/
  alerts : List String := []
deriving DecidableEq, Repr

namespace Panel

/-- The element of the region. -/
def regionElement : String := "analyze_result"

/-- What the user is told when an exchange fails. -/
def alertMessage : String := "Problem retrieving XML data"

/-- A page that nothing was submitted on. -/
def fresh (variant : PageVariant) : Panel := { variant := variant }

/-- The label of a mode. -/
def label (p : Panel) : Mode → StatusLabel
  | .solidity => p.solidityLabel
  | .bytecode => p.bytecodeLabel

/-- Writes the label of a mode. -/
def setLabel (p : Panel) (m : Mode) (l : StatusLabel) : Panel :=
  match m with
  | .solidity => { p with solidityLabel := l }
  | .bytecode => { p with bytecodeLabel := l }

@[simp] theorem label_setLabel (p : Panel) (m : Mode) (l : StatusLabel) :
    (p.setLabel m l).label m = l := by cases m <;> rfl

/-- A page whose label of a mode says something else. -/
def withLabel (p : Panel) (m : Mode) (text : String) : Panel := p.setLabel m (.ofText text)

/-- What the label of a mode says. -/
def labelText (p : Panel) (m : Mode) : String := (p.label m).current

/-- Shows that a submission of a mode is under way. -/
def start (p : Panel) (m : Mode) : Panel :=
  match p.variant with
  | .plain => { p with html := Report.placeholder, lastResponse := none }
  | .report => p.setLabel m (p.label m).hold

/-- Gives the label of a mode back. -/
def release (p : Panel) (m : Mode) : Panel :=
  match p.variant with
  | .plain => p
  | .report => p.setLabel m (p.label m).release

/-- Drops a submission without touching the region. -/
def abandon (p : Panel) (m : Mode) : Panel := p.release m

/-- Alerts the user. -/
def alert (p : Panel) (message : String) : Panel := { p with alerts := p.alerts ++ [message] }

/-- Shows a response. -/
def display (p : Panel) (r : Response) : Panel :=
  { p with html := Report.html r, lastResponse := some r }

/-- The note on a failure that the page does not show. -/
def faultNote (m : Mode) (f : Failure) : Log.Record :=
  ⟨.error, .display, m.name ++ " submission faulted: " ++ f.message⟩

/-- Applies what came of a submission: the state it ends in, the page, and the notes. -/
def finish (p : Panel) (m : Mode) (result : Except Failure Response) :
    SubmissionState × Panel × List Log.Record :=
  let p := p.release m
  match result with
  | .ok r => (.rendered, p.display r, [])
  | .error f =>
    if f.raisesAlert then (.alerted, p.alert alertMessage, [])
    else (.faulted, p, [faultNote m f])

end Panel

end TaintClient

/-
  Why a submission brought no report.
-/
import TaintClient.Http.Fault
import TaintClient.Http.Status
import TaintClient.Json.Fault

namespace TaintClient

/-- Why a submission brought no report. -/
inductive Failure
  /-- There was no answer, or its body broke off. -/
  | transport (fault : Http.Fault)
  /-- The answer was no success. -/
  | status (status : Http.Status)
  /-- The body of the answer was not what it should be. -/
  | malformedBody (fault : Json.Fault)
  /-- The page lacks an element. -/
  | missingElement (id : String)
  /-- There is no endpoint on the server of the base. -/
  | invalidEndpoint (fault : Url.Fault)

/-- The kinds of failures. -/
inductive FailureKind
  | transport
  | status
  | malformedBody
  | missingElement
  | invalidEndpoint
deriving DecidableEq, Repr

namespace FailureKind

/-- Every kind. -/
def all : List FailureKind :=
  [.transport, .status, .malformedBody, .missingElement, .invalidEndpoint]

/-- The name of a kind. -/
def name : FailureKind → String
  | .transport => "Transport"
  | .status => "Status"
  | .malformedBody => "MalformedBody"
  | .missingElement => "MissingElement"
  | .invalidEndpoint => "InvalidEndpoint"

/-- A kind as it is shown. -/
def text : FailureKind → String
  | .transport => "transport error"
  | .status => "unexpected status"
  | .malformedBody => "malformed response body"
  | .missingElement => "missing form element"
  | .invalidEndpoint => "invalid endpoint"

end FailureKind

namespace Failure

/-- The kind of a failure. -/
def kind : Failure → FailureKind
  | .transport _ => .transport
  | .status _ => .status
  | .malformedBody _ => .malformedBody
  | .missingElement _ => .missingElement
  | .invalidEndpoint _ => .invalidEndpoint

/-- The wording of a failure. -/
def message : Failure → String
  | .transport fault => "Analysis request failed: " ++ fault.message
  | .status s => "Analysis service returned " ++ s.text
  | .malformedBody fault => "Malformed analysis response: " ++ String.ofList fault.message
  | .missingElement id => "Missing form element: " ++ id
  | .invalidEndpoint fault => "Invalid analysis endpoint: " ++ fault.message

/-- Whether the page alerts its user: only when the exchange itself failed. -/
def raisesAlert (f : Failure) : Bool := f.kind = .transport || f.kind = .status

end Failure

end TaintClient

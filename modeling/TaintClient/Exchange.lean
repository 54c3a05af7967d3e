/-
  One exchange with the service: a request goes to the endpoint, and its answer is read. Only
  status 200 is a success. Nothing is tried again.
-/
import TaintClient.Endpoint
import TaintClient.Failure
import TaintClient.Http.Fetch
import TaintClient.Log.Record
import TaintClient.Request
import TaintClient.Response.Decode

namespace TaintClient.Exchange

/-- A note of the exchange. -/
def note (level : Log.Level) (message : String) : Log.Record := ⟨level, .client, message⟩

/-- The note that goes before a request. -/
def submitting (endpoint : Url) (r : Request) : Log.Record :=
  note .debug <| "Submitting " ++ r.mode.name ++ " analysis (" ++ toString r.code.utf8ByteSize
    ++ " bytes of code, " ++ toString r.input.utf8ByteSize ++ " bytes of input) to "
    ++ toString endpoint

/-- The note on a request without an answer. -/
def unanswered (endpoint : Url) (f : Http.Fault) : Log.Record :=
  note .warn <| f.kind.text ++ " for " ++ toString endpoint ++ ": " ++ f.message

/-- The note on an answer that is no success. -/
def refused (endpoint : Url) (s : Http.Status) : Log.Record :=
  note .warn <| "Analysis service at " ++ toString endpoint ++ " answered " ++ s.text

/-- The note on a report. -/
def received (r : Response) : Log.Record :=
  note .debug <| "Received " ++ (if r.isReport then "colored" else "plain") ++ " report ("
    ++ toString r.data.utf8ByteSize ++ " bytes)"

/-- What came of an exchange, and the notes on it. -/
structure Outcome where
  result : Except Failure Response
  notes : List Log.Record

/-- What comes of an answer. -/
def read (endpoint : Url) (a : Http.Answer) : Outcome :=
  if a.status ≠ .ok then ⟨.error (.status a.status), [refused endpoint a.status]⟩
  else
    match a.text with
    | .error f => ⟨.error (.transport f), []⟩
    | .ok body =>
      match Response.decode body with
      | .error f => ⟨.error (.malformedBody f), []⟩
      | .ok r => ⟨.ok r, [received r]⟩

/-- The request that is sent to an endpoint. -/
def httpRequest (endpoint : Url) (r : Request) : Http.Request :=
  .ofUrl .post endpoint (some r.fields)

/-- One exchange. -/
def analyze {m : Type → Type} [Monad m] (send : Http.Request → m Http.Reply) (endpoint : Url)
    (r : Request) : m Outcome := do
  let outcome : Outcome :=
    match ← Http.fetch send (httpRequest endpoint r) with
    | .error f => ⟨.error (.transport f), [unanswered endpoint f]⟩
    | .ok a => read endpoint a
  pure { outcome with notes := submitting endpoint r :: outcome.notes }

end TaintClient.Exchange

/-
  Sending a request and following where the answers lead. `send` is the network: it takes one
  request and says what became of it.
-/
import TaintClient.Http.Fault
import TaintClient.Http.Message
import TaintClient.Http.Uri
import TaintClient.Url.Reader

namespace TaintClient.Http

/-- The number of times that an answer may lead on. -/
def maxRedirects : Nat := 10

/-- Whether a URL can be asked for. -/
def isSendable (u : Url) : Bool := Url.IsWeb u.scheme && Uri.isUri u

/-- The place that an answer to a request names, if it names any that can be read as one. -/
def Request.place? (r : Request) (a : Answer) : Option Url :=
  (a.location.bind fun s => (r.url.join s).toOption).filter Uri.isUri

/-- The request that an answer to a request leads to. Asking again with a body is possible only
once, so an answer that wants the same request at another place leads on only without a body. -/
def Request.next? (r : Request) (a : Answer) : Option (Method × Url) :=
  match r.place? a with
  | none => none
  | some url =>
    let url := { url with fragment := none }
    let code := a.status.code
    if code = 301 ∨ code = 302 ∨ code = 303 then some (.get, url)
    else if (code = 307 ∨ code = 308) ∧ r.fields.isNone then some (r.method, url)
    else none

/-- Whether two URLs are on the same server. -/
def sameServer (u v : Url) : Bool :=
  u.host = v.host
    && (u.port.or (Url.defaultPort? u.scheme)) = (v.port.or (Url.defaultPort? v.scheme))

/-- The request for a place that an answer led to. Credentials are for the same server only. -/
def Request.follow (r : Request) (method : Method) (url : Url) : Request :=
  ⟨method, url, if sameServer r.url url then r.authorization else none, none⟩

/-- Sends a request and follows the answers at most `n` times, to places of the web. `first` is the
URL of the first request, which faults of the connection are reported for. -/
def fetchFrom {m : Type → Type} [Monad m] (send : Request → m Reply) (first : Url) :
    Nat → Request → m (Except Fault Answer)
  | n, r => do
    match ← send r with
    | .refused => pure (.error (.refused first))
    | .lost => pure (.error (.lost first))
    | .late => pure (.error (.late first))
    | .answer a =>
      match r.next? a with
      | none => pure (.ok a)
      | some (method, url) =>
        match n with
        | 0 => pure (.error (.tooManyRedirects r.url))
        | n + 1 =>
          if Url.IsWeb url.scheme then fetchFrom send first n (r.follow method url)
          else pure (.error (.unsendable (some url)))

/-- Sends a request and follows the answers. A URL that cannot be asked for is not sent to. -/
def fetch {m : Type → Type} [Monad m] (send : Request → m Reply) (r : Request) :
    m (Except Fault Answer) :=
  if isSendable r.url then fetchFrom send r.url maxRedirects r
  else pure (.error (.unsendable (some r.url)))

/-- The body of an answer as text, whatever it says about its encoding. -/
def Answer.text (a : Answer) : Except Fault String :=
  if a.isWhole then .ok (String.ofList (Text.Utf8.decodeLossy a.body)) else .error .brokenBody

end TaintClient.Http

/-
  Why a request got no answer that can be used.
-/
import TaintClient.Url.Basic

namespace TaintClient.Http

/-- The kinds of faults in the order in which they are told apart. -/
inductive FaultKind
  | builder
  | redirect
  | timeout
  | connect
  | body
  | decode
  | request
  | other
deriving DecidableEq, Repr

namespace FaultKind

/-- Every kind. -/
def all : List FaultKind :=
  [.builder, .redirect, .timeout, .connect, .body, .decode, .request, .other]

/-- The name of a kind. -/
def name : FaultKind → String
  | .builder => "HttpRequestBuilderError"
  | .redirect => "HttpRequestRedirectError"
  | .timeout => "HttpRequestTimeoutError"
  | .connect => "HttpRequestConnectError"
  | .body => "HttpRequestBodyError"
  | .decode => "HttpRequestDecodeError"
  | .request => "HttpRequestRequestError"
  | .other => "HttpRequestOtherError"

/-- A kind as it is shown. -/
def text : FaultKind → String
  | .builder => "HTTP request builder error"
  | .redirect => "HTTP request redirect error"
  | .timeout => "HTTP request timeout error"
  | .connect => "HTTP request connect error"
  | .body => "HTTP request body error"
  | .decode => "HTTP request decode error"
  | .request => "HTTP request error"
  | .other => "HTTP request other error"

end FaultKind

/-- Why there is no answer that can be used. Each but the last names the URL in question. -/
inductive Fault
  /-- The URL cannot be asked for by this protocol. -/
  | unsendable (url : Option Url)
  /-- There was no connection. -/
  | refused (url : Url)
  /-- The connection ended, or what came was no answer. -/
  | lost (url : Url)
  /-- The time was up. -/
  | late (url : Url)
  /-- The answers led on too often, and the one at this place did once more. -/
  | tooManyRedirects (url : Url)
  /-- The body broke off. -/
  | brokenBody
deriving Repr

namespace Fault

/-- The kind of a fault. -/
def kind : Fault → FaultKind
  | .unsendable _ => .builder
  | .refused _ => .connect
  | .lost _ => .request
  | .late _ => .timeout
  | .tooManyRedirects _ => .redirect
  | .brokenBody => .decode

/-- What happened, without the place. -/
def event : Fault → String
  | .unsendable _ => "builder error"
  | .refused _ | .lost _ | .late _ => "error sending request"
  | .tooManyRedirects _ => "error following redirect"
  | .brokenBody => "error decoding response body"

/-- The URL in question. -/
def url? : Fault → Option Url
  | .unsendable url => url
  | .refused url | .lost url | .late url | .tooManyRedirects url => some url
  | .brokenBody => none

/-- The wording of a fault. -/
def message (f : Fault) : String :=
  match f.url? with
  | some url => f.event ++ " for url (" ++ toString url ++ ")"
  | none => f.event

end Fault

end TaintClient.Http

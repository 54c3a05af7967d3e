/-
  Requests as they are sent, and what comes back: an answer, or none.
-/
import TaintClient.Http.Status
import TaintClient.Text.Base64
import TaintClient.Url.Basic

namespace TaintClient.Http

/-- The methods in use. -/
inductive Method
  | get
  | post
deriving DecidableEq, Repr

/-- The name of a method. -/
def Method.name : Method → String
  | .get => "GET"
  | .post => "POST"

/-- The name that the client gives itself. -/
def userAgent : String := "taint_analyze/0.1.0"

/-- A request. -/
structure Request where
  method : Method
  /-- Where it is sent. A user and a password in it are not. -/
  url : Url
  authorization : Option String := none
  /-- The fields of the body, if there is one. -/
  fields : Option (List (String × String)) := none
deriving Repr

/-- The kind of the body, without the mark that separates its fields. -/
def Request.contentType? (r : Request) : Option String :=
  r.fields.map fun _ => "multipart/form-data"

/-- The credentials of a user. -/
def basicAuthorization (username password : List Char) : String :=
  "Basic " ++ String.ofList (Text.base64 (Text.Utf8.encode (username ++ ':' :: password)))

/-- A part of a URL with the octets read, if they are text. -/
def plainPart? (s : List Char) : Option (List Char) :=
  Text.Utf8.decode? (Url.percentDecode (Text.Utf8.encode s))

/-- The credentials of a URL, and the URL to send them to. A user that is no text stays in the
URL; a password that is no text counts as none. -/
def credentials (u : Url) : Option String × Url :=
  match plainPart? u.username with
  | none => (none, u)
  | some username =>
    let password := if u.password.isEmpty then none else plainPart? u.password
    if username.isEmpty ∧ password.isNone then (none, u)
    else (some (basicAuthorization username (password.getD [])), u.withoutUserinfo)

/-- A request for a URL. -/
def Request.ofUrl (method : Method) (u : Url) (fields : Option (List (String × String))) :
    Request :=
  let (authorization, url) := credentials u
  ⟨method, url, authorization, fields⟩

/-- An answer. The body may break off. -/
structure Answer where
  status : Status
  location : Option String := none
  body : List UInt8 := []
  isWhole : Bool := true
deriving Repr

/-- What became of a request. -/
inductive Reply
  | answer (a : Answer)
  /-- There was no connection. -/
  | refused
  /-- The connection ended, or what came was no answer. -/
  | lost
  /-- The time was up before an answer came. -/
  | late
deriving Repr

end TaintClient.Http

/-
  URLs: their parts, and their text.
-/
import TaintClient.Url.Host

namespace TaintClient

namespace Url

/-- The schemes whose URLs always have a path and whose hosts are domain names or addresses, with
the port that goes without saying. -/
def specialSchemes : List (String × Option Nat) :=
  [("http", some 80), ("https", some 443), ("ws", some 80), ("wss", some 443), ("ftp", some 21),
    ("file", none)]

/-- Whether a scheme is one of those. -/
def isSpecial (scheme : String) : Bool := specialSchemes.any (·.1 = scheme)

/-- Whether a scheme is one of the web. -/
def IsWeb (scheme : String) : Prop := scheme = "http" ∨ scheme = "https"

instance : DecidablePred IsWeb := fun _ => inferInstanceAs (Decidable (_ ∨ _))

/-- The port that goes without saying. -/
def defaultPort? (scheme : String) : Option Nat := (specialSchemes.lookup scheme).join

/-- The path of a URL: segments, each behind a solidus, or a text without any structure. -/
inductive Path
  | rooted (segments : List (List Char))
  | rootless (text : List Char)
deriving DecidableEq, Repr

end Url

/-- A URL. -/
structure Url where
  scheme : String
  username : List Char := []
  password : List Char := []
  /-- There is none where the path follows the scheme directly. -/
  host : Option Url.Host := none
  port : Option Nat := none
  path : Url.Path
  query : Option (List Char) := none
  fragment : Option (List Char) := none
deriving DecidableEq, Repr

namespace Url

/-- The user, the password if there is one, and the sign behind them. -/
def userinfoText (u : Url) : List Char :=
  if u.username.isEmpty ∧ u.password.isEmpty then []
  else u.username ++ (if u.password.isEmpty then [] else ':' :: u.password) ++ ['@']

/-- The port behind a colon. -/
def portText (u : Url) : List Char :=
  match u.port with
  | some n => ':' :: decimal n
  | none => []

/-- What stands between the scheme and the path. A path that would be taken for a host is set off
by a point. -/
def authorityText (u : Url) : List Char :=
  match u.host, u.path with
  | some host, _ => '/' :: '/' :: u.userinfoText ++ host.text ++ u.portText
  | none, .rooted ([] :: _ :: _) => ['/', '.']
  | none, _ => []

/-- A path as it is written. -/
def Path.text : Path → List Char
  | .rooted segments => segments.flatMap ('/' :: ·)
  | .rootless text => text

/-- A part that follows a sign, if there is one. -/
def behind (sign : Char) : Option (List Char) → List Char
  | some s => sign :: s
  | none => []

/-- The path and the query. -/
def target (u : Url) : List Char := u.path.text ++ behind '?' u.query

/-- The text of a URL. -/
def text (u : Url) : List Char :=
  u.scheme.toList ++ ':' :: u.authorityText ++ u.target ++ behind '#' u.fragment

instance : ToString Url := ⟨fun u => String.ofList u.text⟩

/-- The URL without user and password. -/
def withoutUserinfo (u : Url) : Url := { u with username := [], password := [] }

end Url

end TaintClient

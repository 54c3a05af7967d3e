/-
  Which URLs the transport takes for places. It reads the text of a URL once more by rules of its
  own, and these are narrower: no quotation mark, backtick or brace may stand in the name of a
  server, a server is needed where two solidi are, and the text must not be too long. Without two
  solidi behind the scheme, all of the text is read as a server with its port.
-/
import TaintClient.Url.Basic

namespace TaintClient.Http.Uri

/-- The greatest length of a place. -/
def maxLength : Nat := 65534

/-- The greatest length of a scheme that is not known. -/
def maxSchemeLength : Nat := 64

/-! ## Servers -/

/-- The number of colons at which a server is given up; no address has as many. -/
def maxColons : Nat := 8

/-- Whether a character may stand before the path as it is. -/
def isServerChar (c : Char) : Bool := c.isAlphanum || "!$&'()*+,-.;=_~".toList.contains c

/-- What was read before the path. What belongs to a user is forgotten at the sign behind it, and
what belongs to an address between brackets at the closing one. -/
structure Server where
  colons : Nat := 0
  isOpened : Bool := false
  isClosed : Bool := false
  hasPercent : Bool := false
  /-- Whether the sign behind a user was the last one. -/
  endsUser : Bool := false
deriving DecidableEq, Repr

/-- Reads one more character. -/
def Server.next? (s : Server) (c : Char) : Option Server :=
  let s := { s with endsUser := c = '@' }
  if c = ':' then if s.colons < maxColons then some { s with colons := s.colons + 1 } else none
  else if c = '[' then
    if s.hasPercent ∨ s.isOpened then none else some { s with isOpened := true }
  else if c = ']' then
    if s.isOpened ∧ ¬ s.isClosed then
      some { s with isClosed := true, colons := 0, hasPercent := false }
    else none
  else if c = '@' then some { s with colons := 0, hasPercent := false }
  else if c = '%' then some { s with hasPercent := true }
  else if isServerChar c then some s
  else none

/-- Whether a text is a server: with a user before it or not, and with a port behind it or not. -/
def isServer (s : List Char) : Bool :=
  match s.foldlM Server.next? {} with
  | some s => s.isOpened = s.isClosed && s.colons ≤ 1 && !s.endsUser && !s.hasPercent
  | none => false

/-! ## Paths -/

/-- Whether a character may stand in a path. -/
def isPathChar (c : Char) : Bool := ' ' < c && !"<>`".toList.contains c

/-- Whether a character may stand in a query. -/
def isQueryChar (c : Char) : Bool := ' ' < c && !"\"<>".toList.contains c

/-- Whether a text is a path, with a query behind it or not; a fragment is not looked at. -/
def isTarget (s : List Char) : Bool :=
  let path := s.takeWhile fun c => c ≠ '?' ∧ c ≠ '#'
  path.all isPathChar &&
    match s.drop path.length with
    | '?' :: query => (query.takeWhile (· ≠ '#')).all isQueryChar
    | _ => true

/-! ## Places -/

/-- Whether a text behind a scheme is a place: a server, and a path. -/
def isPlace (s : List Char) : Bool :=
  let server := s.takeWhile fun c => c ≠ '/' ∧ c ≠ '?' ∧ c ≠ '#'
  !server.isEmpty && isServer server && isTarget (s.drop server.length)

/-- Whether a URL is taken for a place. -/
def isUri (u : Url) : Bool :=
  u.text.length ≤ maxLength &&
    match u.text.drop (u.scheme.length + 1) with
    | '/' :: '/' :: rest => u.scheme.length ≤ maxSchemeLength && isPlace rest
    | _ => isServer u.text

end TaintClient.Http.Uri

/-
  Requests and answers as octets: the lines of a request with its body in parts, and an answer
  from its first line to the end of its body.
-/
import TaintClient.Http.Message
import TaintClient.Text.Blank
import TaintClient.Text.CodeTable

namespace TaintClient.Http.Wire

/-- The octets of a text. -/
def octets (s : String) : List UInt8 := Text.Utf8.encode s.toList

/-! ## Requests -/

/-- The end of a line. -/
def lineEnd : String := "\r\n"

/-- A field of a body between marks. -/
def part (boundary : String) (f : String × String) : List UInt8 :=
  octets ("--" ++ boundary ++ lineEnd ++ "Content-Disposition: form-data; name=\"" ++ f.1 ++ "\""
    ++ lineEnd ++ lineEnd ++ f.2 ++ lineEnd)

/-- The fields of a body, each between two marks, the last of which is a mark of its own. -/
def body (boundary : String) (fields : List (String × String)) : List UInt8 :=
  fields.flatMap (part boundary) ++ octets ("--" ++ boundary ++ "--" ++ lineEnd)

/-- The name of the server of a URL, with its port unless that goes without saying. -/
def serverName (u : Url) : String := String.ofList ((u.host.map Url.Host.text).getD [] ++ u.portText)

/-- The lines about a body. -/
def bodyHeaders (boundary : String) (length : Nat) : List (String × String) :=
  [("content-type", "multipart/form-data; boundary=" ++ boundary),
    ("content-length", toString length)]

/-- The lines about a request. -/
def headers (boundary : String) (r : Request) : List (String × String) :=
  [("host", serverName r.url), ("user-agent", userAgent), ("accept", "*/*"),
    ("connection", "close")]
    ++ r.authorization.toList.map (("authorization", ·))
    ++ r.fields.toList.flatMap fun fields => bodyHeaders boundary (body boundary fields).length

/-- A request as it is sent. -/
def request (boundary : String) (r : Request) : List UInt8 :=
  octets (r.method.name ++ " " ++ String.ofList r.url.target ++ " HTTP/1.1" ++ lineEnd
    ++ "".intercalate ((headers boundary r).map fun h => h.1 ++ ": " ++ h.2 ++ lineEnd) ++ lineEnd)
    ++ (r.fields.map (body boundary)).getD []

/-! ## Answers -/

/-- The text of a line without the carriage return at its end; the line is given from its end
on. -/
def lineText (reversed : List UInt8) : String :=
  let line := match reversed with
    | b :: rest => if b = 13 then rest else reversed
    | [] => []
  String.ofList (Text.Utf8.decodeLossy line.reverse)

/-- The lines up to the first empty one, and what is behind that; none if there is none. `line` is
the line that is being read, from its end on. -/
def head (line : List UInt8) : List UInt8 → Option (List String × List UInt8)
  | [] => none
  | b :: bs =>
    if b ≠ 10 then head (b :: line) bs
    else if (lineText line).isEmpty then some ([], bs)
    else (head [] bs).map fun r => (lineText line :: r.1, r.2)

/-- The status of a first line. -/
def status? (line : String) : Option Nat :=
  match line.toList with
  | 'H' :: 'T' :: 'T' :: 'P' :: '/' :: '1' :: '.' :: v :: ' ' :: a :: b :: c :: rest =>
    let n := ((a.toNat - 48) * 10 + (b.toNat - 48)) * 10 + (c.toNat - 48)
    if (v = '0' ∨ v = '1') ∧ [a, b, c].all Char.isDigit ∧ rest.head?.all (· = ' ') ∧ 100 ≤ n then
      some n
    else none
  | _ => none

/-- The value behind a name, in whatever letters that is written. -/
def value? (lines : List String) (name : String) : Option String :=
  lines.findSome? fun line =>
    let key := line.toList.takeWhile (· ≠ ':')
    if key.map Char.toLower = name.toList ∧ key.length < line.length then
      some (String.ofList (Text.trim (line.toList.drop (key.length + 1))))
    else none

/-- The octets of a body that comes in pieces, each behind its length, and whether it is whole.
Each piece takes an octet at least, so `fuel` need be no more than their number. -/
def pieces (fuel : Nat) (bs : List UInt8) : List UInt8 × Bool :=
  match fuel with
  | 0 => ([], false)
  | fuel + 1 =>
    let line := bs.takeWhile (· ≠ 10)
    let rest := bs.drop (line.length + 1)
    let digits := (lineText line.reverse).toList.takeWhile fun c => (Text.hexValue? c).isSome
    if digits.isEmpty ∨ bs.length = line.length then ([], false)
    else
      let n := Text.hexNumber digits
      if n = 0 then ([], true)
      else if rest.length < n then (rest, false)
      else
        let more := pieces fuel ((rest.drop n).dropWhile fun b => b = 13 || b = 10)
        (rest.take n ++ more.1, more.2)

/-- The body of an answer, and whether it is whole: in pieces, of a given length, or all there
is. -/
def answerBody (status : Nat) (lines : List String) (bs : List UInt8) : List UInt8 × Bool :=
  if status = 204 ∨ status = 304 then ([], true)
  else if value? lines "transfer-encoding" = some "chunked" then pieces (bs.length + 1) bs
  else
    match (value? lines "content-length").bind String.toNat? with
    | some n => (bs.take n, n ≤ bs.length)
    | none => (bs, true)

/-- An answer from all that came of it. What only announces the answer is passed over, and there
are fewer such heads than octets. -/
def reply (fuel : Nat) (bs : List UInt8) : Reply :=
  match fuel with
  | 0 => .lost
  | fuel + 1 =>
    match head [] bs with
    | some (first :: lines, rest) =>
      match status? first with
      | none => .lost
      | some n =>
        if n < 200 ∧ n ≠ 101 then reply fuel rest
        else
          let (body, isWhole) := answerBody n lines rest
          .answer ⟨⟨n⟩, value? lines "location", body, isWhole⟩
    | _ => .lost

/-- An answer from all that came of it. -/
def ofOctets (bs : List UInt8) : Reply := reply (bs.length + 1) bs

end TaintClient.Http.Wire

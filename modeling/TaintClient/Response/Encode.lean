/-
  Writing a response as a JSON text: one object, its members in the order of the fields, absent
  ones left out.
-/
import TaintClient.Json.Text
import TaintClient.Response

namespace TaintClient.Response

open Json

/-- An integer in decimal digits. -/
def writeInteger (n : Int) : List Char :=
  (if n < 0 then ['-'] else []) ++ Nat.toDigits 10 n.natAbs

/-- One member of an object. -/
def writeMember (name : String) (value : List Char) : List Char :=
  writeText name.toList ++ ':' :: value

/-- The members of the response that are present. -/
def members (r : Response) : List (List Char) :=
  [writeMember "data" (writeText r.data.toList)] ++
    r.title.toList.map (fun s => writeMember "title" (writeText s.toList)) ++
    r.color.toList.map (fun s => writeMember "color" (writeText s.toList)) ++
    r.code.toList.map (fun n => writeMember "code" (writeInteger n.toInt)) ++
    r.status.toList.map (fun s => writeMember "status" (writeText s.toList))

/-- The response as a JSON text. -/
def encode (r : Response) : String :=
  String.ofList ('{' :: [','].intercalate r.members ++ ['\x7d'])

end TaintClient.Response

/-
  Octets written as a percent sign and two hexadecimal digits, and the characters that have to be
  written so in each part of a URL.
-/
import TaintClient.Text.CodeTable
import TaintClient.Text.Utf8

namespace TaintClient.Url

/-- The digit of a number below sixteen. -/
def capitalDigit (n : Nat) : Char := Char.ofNat (if n < 10 then 48 + n else 55 + n)

/-- An octet behind a percent sign. -/
def writeOctet (b : UInt8) : List Char :=
  ['%', capitalDigit (b.toNat / 16), capitalDigit (b.toNat % 16)]

/-- The text with every character that satisfies `p` written by its octets. -/
def percentEncode (p : Char → Bool) (s : List Char) : List Char :=
  s.flatMap fun c => if p c then (Text.Utf8.encodeChar c).flatMap writeOctet else [c]

/-- The octet of two hexadecimal digits. -/
def readOctet? (h l : UInt8) : Option UInt8 :=
  match Text.hexValue? (Char.ofNat h.toNat), Text.hexValue? (Char.ofNat l.toNat) with
  | some m, some n => some (m * 16 + n).toUInt8
  | _, _ => none

/-- The octets of a text with those behind percent signs read. A percent sign without two digits
stands for itself. -/
def percentDecode : List UInt8 → List UInt8
  | b :: h :: l :: rest =>
    match (if b = 37 then readOctet? h l else none) with
    | some n => n :: percentDecode rest
    | none => b :: percentDecode (h :: l :: rest)
  | bs => bs

/-! ## Which characters are written by their octets -/

/-- In a host that is not a domain name. -/
def inHost (c : Char) : Bool := c.toNat < 32 || 126 < c.toNat

/-- In a fragment. -/
def inFragment (c : Char) : Bool := inHost c || " \"<>`".toList.contains c

/-- In a query. -/
def inQuery (c : Char) : Bool := inHost c || " \"#<>".toList.contains c

/-- In the query of a URL with an authority of its kind. -/
def inSpecialQuery (c : Char) : Bool := inQuery c || c = '\''

/-- In a path. -/
def inPath (c : Char) : Bool := inFragment c || "#?\x7b\x7d".toList.contains c

/-- In the name and the password of a user. -/
def inUserinfo (c : Char) : Bool := inPath c || "/:;=@[\\]^|".toList.contains c

end TaintClient.Url

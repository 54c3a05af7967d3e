/-
  The host of a URL: a domain name, an address of four octets, or one of eight pieces.
-/
import TaintClient.Domain.Name
import TaintClient.Url.Percent

namespace TaintClient.Url

/-- Why a text is no URL. -/
inductive Fault
  | emptyHost
  | domainName
  | port
  | ipv4
  | ipv6
  | domainCharacter
  | relativeWithoutBase
  | relativeWithRootlessBase
deriving DecidableEq, Repr

/-- The wording of a fault. -/
def Fault.message : Fault → String
  | .emptyHost => "empty host"
  | .domainName => "invalid international domain name"
  | .port => "invalid port number"
  | .ipv4 => "invalid IPv4 address"
  | .ipv6 => "invalid IPv6 address"
  | .domainCharacter => "invalid domain character"
  | .relativeWithoutBase => "relative URL without a base"
  | .relativeWithRootlessBase => "relative URL with a cannot-be-a-base base"

/-- A host. -/
inductive Host
  /-- A name, also an empty one. -/
  | domain (name : List Char)
  | ipv4 (address : Nat)
  | ipv6 (pieces : List Nat)
deriving DecidableEq, Repr

/-- The host of a URL that names none. -/
def Host.empty : Host := .domain []

/-! ## Addresses of four octets -/

/-- The number of a text in some base, if all characters are digits of it. -/
def numberIn? (base : Nat) (s : List Char) : Option Nat :=
  s.foldlM (fun n c =>
    match Text.hexValue? c with
    | some d => if d < base then some (n * base + d) else none
    | none => none) 0

/-- A part of an address, in the base that it begins with. -/
def addressPart? (s : List Char) : Option Nat :=
  match s with
  | [] => none
  | '0' :: 'x' :: t => numberIn? 16 t
  | '0' :: 'X' :: t => numberIn? 16 t
  | '0' :: d :: t => numberIn? 8 (d :: t)
  | s => numberIn? 10 s

/-- The parts between points; a point at the end counts for nothing. -/
def addressParts (s : List Char) : List (List Char) :=
  let parts := s.splitOn '.'
  if parts.getLast? = some [] then parts.dropLast else parts

/-- Whether the last part of a name is a number, which makes the name an address. -/
def endsInNumber (s : List Char) : Bool :=
  match (addressParts s).getLast? with
  | none => false
  | some p => (!p.isEmpty && p.all Char.isDigit) || (addressPart? p).isSome

/-- The address whose parts are given: the last one fills the octets that the others leave. -/
def addressOf? (parts : List Nat) : Option Nat :=
  match parts.getLast? with
  | none => none
  | some last =>
    let front := parts.dropLast
    if 4 < parts.length ∨ Nat.pow 256 (4 - front.length) ≤ last ∨ front.any (255 < ·) then none
    else some ((front.foldl (fun n p => n * 256 + p) 0) * Nat.pow 256 (4 - front.length) + last)

/-- The address that a name stands for. -/
def readIpv4? (s : List Char) : Option Nat :=
  ((addressParts s).mapM addressPart?).bind addressOf?

/-- The digits of a number. -/
def decimal (n : Nat) : List Char := Nat.toDigits 10 n

/-- An address as it is written. -/
def writeIpv4 (n : Nat) : List Char :=
  ['.'].intercalate ([n / 16777216, n / 65536 % 256, n / 256 % 256, n % 256].map decimal)

/-! ## Addresses of eight pieces -/

/-- Reads up to four hexadecimal digits. -/
def readPiece (s : List Char) : Nat × List Char :=
  let digits := (s.take 4).takeWhile fun c => (Text.hexValue? c).isSome
  (Text.hexNumber digits, s.drop digits.length)

/-- An octet in decimal digits, without leading zeros. -/
def octet? (s : List Char) : Option Nat :=
  match numberIn? 10 s with
  | none => none
  | some n => if 255 < n ∨ s.isEmpty ∨ (s.head? = some '0' ∧ 1 < s.length) then none else some n

/-- The two pieces of four octets with points between them. -/
def octetPieces? (s : List Char) : Option (List Nat) :=
  match (s.splitOn '.').mapM octet? with
  | some [a, b, c, d] => some [a * 256 + b, c * 256 + d]
  | _ => none

/-- Pieces read so far, and how many of them stand before the gap that a double colon leaves. -/
structure Pieces where
  pieces : List Nat := []
  gap : Option Nat := none

/-- The eight pieces, the gap filled with zeros. A gap stands for one piece or more. -/
def Pieces.whole? (p : Pieces) : Option (List Nat) :=
  let n := p.pieces.length
  match p.gap with
  | none => if n = 8 then some p.pieces else none
  | some g =>
    if n < 8 then some (p.pieces.take g ++ List.replicate (8 - n) 0 ++ p.pieces.drop g) else none

/-- Reads at most `n` more pieces, to the end of the text. -/
def readPieces : Nat → Pieces → List Char → Option Pieces
  | _, p, [] => some p
  | 0, _, _ :: _ => none
  | n + 1, p, ':' :: s =>
    if p.gap.isSome then none else readPieces n { p with gap := some p.pieces.length } s
  | n + 1, p, s =>
    let (value, rest) := readPiece s
    match rest with
    | [] => some { p with pieces := p.pieces ++ [value] }
    | ':' :: t =>
      if t.isEmpty then none
      else readPieces n { p with pieces := p.pieces ++ [value] } t
    | '.' :: _ => (octetPieces? s).map fun q => { p with pieces := p.pieces ++ q }
    | _ => none

/-- The pieces of an address without its brackets. A colon at the start belongs to a double one. -/
def readIpv6? (s : List Char) : Option (List Nat) :=
  match s with
  | [] => none
  | ':' :: ':' :: t => (readPieces 9 { gap := some 0 } t).bind Pieces.whole?
  | ':' :: _ => none
  | s => (readPieces 9 {} s).bind Pieces.whole?

/-- The start and the length of the longest run of zeros, the first of several. -/
def zeroRun (pieces : List Nat) : Nat × Nat :=
  let runs := (List.range pieces.length).map fun i => (i, ((pieces.drop i).takeWhile (· = 0)).length)
  runs.foldl (fun best r => if best.2 < r.2 then r else best) (0, 0)

/-- Pieces with colons between them. -/
def joinPieces (pieces : List Nat) : List Char := [':'].intercalate (pieces.map Text.hexDigits)

/-- An address as it is written, two colons for a run of two zeros or more. -/
def writeIpv6 (pieces : List Nat) : List Char :=
  let (start, length) := zeroRun pieces
  if length < 2 then joinPieces pieces
  else joinPieces (pieces.take start) ++ [':', ':'] ++ joinPieces (pieces.drop (start + length))

/-! ## Hosts -/

/-- A host as it is written. -/
def Host.text : Host → List Char
  | .domain name => name
  | .ipv4 address => writeIpv4 address
  | .ipv6 pieces => '[' :: writeIpv6 pieces ++ [']']

/-- The address in brackets. -/
def readBracketed (s : List Char) : Except Fault Host :=
  if s.getLast? = some ']' then
    match readIpv6? ((s.drop 1).dropLast) with
    | some pieces => .ok (.ipv6 pieces)
    | none => .error .ipv6
  else .error .ipv6

/-- The host that a name stands for once its octets are read. -/
def readName (s : List Char) : Except Fault Host :=
  match Domain.toAscii? (Text.Utf8.decodeLossy (percentDecode (Text.Utf8.encode s))) with
  | none => .error .domainName
  | some name =>
    if name.isEmpty then .error .emptyHost
    else if endsInNumber name then
      match readIpv4? name with
      | some address => .ok (.ipv4 address)
      | none => .error .ipv4
    else .ok (.domain name)

/-- The host of a text. -/
def Host.read (s : List Char) : Except Fault Host :=
  if s.head? = some '[' then readBracketed s else readName s

/-- Whether a character cannot stand in a host that is no domain name. -/
def isHostBreak (c : Char) : Bool := "\x00\t\n\r #/:<>?@[\\]^|".toList.contains c

/-- The host of a URL whose hosts are no domain names. -/
def Host.readPlain (s : List Char) : Except Fault Host :=
  if s.head? = some '[' then readBracketed s
  else if s.any isHostBreak then .error .domainCharacter
  else .ok (.domain (percentEncode inHost s))

end TaintClient.Url

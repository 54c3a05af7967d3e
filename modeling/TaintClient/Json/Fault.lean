/-
  Why a JSON text is refused, where, and how that is said.
-/
import TaintClient.Decimal.Shortest
import TaintClient.Text.Quoted
import TaintClient.Json.Cursor

namespace TaintClient.Json

/-- A number as far as its kind matters: a natural number below `2 ^ 64`, a negative integer from
`-2 ^ 63` on, or any other number, rounded to double precision. -/
inductive Number
  | natural (n : Nat)
  | negative (n : Int)
  | float (x : Float)

/-- A value of the wrong kind. Of texts and numbers the value itself is told. -/
inductive Found
  | null
  | bool (b : Bool)
  | number (n : Number)
  | text (s : List Char)
  | sequence
  | map

/-- The causes of a refusal: the first group concerns the text, the second the value it writes. -/
inductive Cause
  | endInValue
  | endInList
  | endInObject
  | endInText
  | expectedColon
  | expectedListSeparator
  | expectedObjectSeparator
  | expectedWord
  | expectedValue
  | keyNotText
  | trailingComma
  | trailingCharacters
  | badEscape
  | badNumber
  | numberTooLarge
  | controlCharacter
  | loneSurrogate
  | unpairedSurrogate
  | wrongType (found : Found) (expected : String)
  | outOfRange (n : Nat) (expected : String)
  | wrongLength (n : Nat) (expected : String)
  | missingField (name : String)
  | duplicateField (name : String)
  | unknownVariant (name : List Char) (known : List String)

/-- A cause and the place where it was noticed. -/
structure Fault where
  cause : Cause
  place : Place

/-- How a float is shown: positional for decimal exponents from -5 to 15, with at least one digit
on each side of the point, else with one digit before the point and a signed exponent of at least
two digits. -/
def floatText (x : Float) : List Char :=
  let d := Decimal.shortest x
  let ds := Nat.toDigits 10 d.digits
  let point := (ds.length : Int) + d.exponent
  let exponent := point - 1
  let sign := if x.toBits.toNat < 9223372036854775808 then [] else ['-']
  let body :=
    if d.digits = 0 then ['0', '.', '0']
    else if 0 ≤ exponent ∧ exponent ≤ 15 then
      if ds.length ≤ point.toNat then
        ds ++ List.replicate (point.toNat - ds.length) '0' ++ ['.', '0']
      else ds.take point.toNat ++ '.' :: ds.drop point.toNat
    else if -5 ≤ exponent ∧ exponent < 0 then
      '0' :: '.' :: List.replicate (-point).toNat '0' ++ ds
    else
      let e := Nat.toDigits 10 exponent.natAbs
      ds.take 1 ++ (if ds.length = 1 then [] else '.' :: ds.drop 1) ++
        'e' :: (if exponent < 0 then '-' else '+') ::
        (if e.length < 2 then '0' :: e else e)
  sign ++ body

/-- How a number of the wrong kind is named. -/
def Number.describe : Number → List Char
  | .natural n => "integer `".toList ++ Nat.toDigits 10 n ++ ['`']
  | .negative n => "integer `-".toList ++ Nat.toDigits 10 n.natAbs ++ ['`']
  | .float x => "floating point `".toList ++ floatText x ++ ['`']

/-- How a value of the wrong kind is named. -/
def Found.describe : Found → List Char
  | .null => "null".toList
  | .bool true => "boolean `true`".toList
  | .bool false => "boolean `false`".toList
  | .number n => n.describe
  | .text s => "string ".toList ++ Text.Quoted.quote s
  | .sequence => "sequence".toList
  | .map => "map".toList

/-- The known variants as a phrase. -/
def alternatives : List String → List Char
  | [] => "there are no variants".toList
  | [a] => "expected `".toList ++ a.toList ++ ['`']
  | [a, b] => "expected `".toList ++ a.toList ++ "` or `".toList ++ b.toList ++ ['`']
  | names => "expected one of ".toList ++
      (", ".toList).intercalate (names.map fun n => '`' :: n.toList ++ ['`'])

/-- The wording of a cause. -/
def Cause.message : Cause → List Char
  | .endInValue => "EOF while parsing a value".toList
  | .endInList => "EOF while parsing a list".toList
  | .endInObject => "EOF while parsing an object".toList
  | .endInText => "EOF while parsing a string".toList
  | .expectedColon => "expected `:`".toList
  | .expectedListSeparator => "expected `,` or `]`".toList
  | .expectedObjectSeparator => "expected `,` or `\x7d`".toList
  | .expectedWord => "expected ident".toList
  | .expectedValue => "expected value".toList
  | .keyNotText => "key must be a string".toList
  | .trailingComma => "trailing comma".toList
  | .trailingCharacters => "trailing characters".toList
  | .badEscape => "invalid escape".toList
  | .badNumber => "invalid number".toList
  | .numberTooLarge => "number out of range".toList
  | .controlCharacter =>
    "control character (\\u0000-\\u001F) found while parsing a string".toList
  | .loneSurrogate => "lone leading surrogate in hex escape".toList
  | .unpairedSurrogate => "unexpected end of hex escape".toList
  | .wrongType found expected =>
    "invalid type: ".toList ++ found.describe ++ ", expected ".toList ++ expected.toList
  | .outOfRange n expected =>
    "invalid value: ".toList ++ (Number.natural n).describe ++ ", expected ".toList ++ expected.toList
  | .wrongLength n expected =>
    "invalid length ".toList ++ Nat.toDigits 10 n ++ ", expected ".toList ++ expected.toList
  | .missingField name => "missing field `".toList ++ name.toList ++ ['`']
  | .duplicateField name => "duplicate field `".toList ++ name.toList ++ ['`']
  | .unknownVariant name known =>
    "unknown variant `".toList ++ name ++ "`, ".toList ++ alternatives known

/-- The whole message: the cause, then the place. -/
def Fault.message (f : Fault) : List Char :=
  f.cause.message ++ " at line ".toList ++ Nat.toDigits 10 f.place.line ++ " column ".toList ++
    Nat.toDigits 10 f.place.column

end TaintClient.Json

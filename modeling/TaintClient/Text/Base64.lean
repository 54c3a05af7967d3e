/-
  Octets in letters: three octets in four letters, the last group filled up with a sign.
-/

namespace TaintClient.Text

/-- The letters, by value. -/
def base64Letters : List Char :=
  "ABCDEFGHIJKLMNOPQRSTUVWXYZabcdefghijklmnopqrstuvwxyz0123456789+/".toList

/-- The letter of a value below sixty-four. -/
def base64Letter (n : Nat) : Char := (base64Letters[n % 64]?).getD 'A'

/-- The letters of octets. -/
def base64 : List UInt8 → List Char
  | [] => []
  | [a] =>
    let n := a.toNat
    [base64Letter (n / 4), base64Letter (n * 16), '=', '=']
  | [a, b] =>
    let n := a.toNat * 256 + b.toNat
    [base64Letter (n / 1024), base64Letter (n / 16), base64Letter (n * 4), '=']
  | a :: b :: c :: rest =>
    let n := (a.toNat * 256 + b.toNat) * 256 + c.toNat
    base64Letter (n / 262144) :: base64Letter (n / 4096) :: base64Letter (n / 64)
      :: base64Letter n :: base64 rest

end TaintClient.Text

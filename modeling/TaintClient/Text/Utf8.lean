/-
  UTF-8: the octets of a text, reading them back, and reading octets that may be damaged.
  A damaged sequence is replaced by U+FFFD once per longest beginning of a well-formed
  sequence, so that no sound character behind it is lost.
-/

namespace TaintClient.Text.Utf8

/-- The octets of one character. -/
def encodeChar (c : Char) : List UInt8 :=
  let n := c.toNat
  if n < 0x80 then [n.toUInt8]
  else if n < 0x800 then [(0xC0 + n / 0x40).toUInt8, (0x80 + n % 0x40).toUInt8]
  else if n < 0x10000 then
    [(0xE0 + n / 0x1000).toUInt8, (0x80 + n / 0x40 % 0x40).toUInt8, (0x80 + n % 0x40).toUInt8]
  else
    [(0xF0 + n / 0x40000).toUInt8, (0x80 + n / 0x1000 % 0x40).toUInt8,
      (0x80 + n / 0x40 % 0x40).toUInt8, (0x80 + n % 0x40).toUInt8]

/-- The octets of a text. -/
def encode (s : List Char) : List UInt8 := s.flatMap encodeChar

/-- What an octet may open: a one-octet character, or a longer one given by the number of octets
that follow, the bits it contributes and the range of the second octet. -/
inductive Lead
  | ascii (value : Nat)
  | long (more : Nat) (bits : Nat) (low high : Nat)
  | none

/-- The role of an octet at the start of a character. The ranges of the second octet exclude
overlong forms, surrogates and values above U+10FFFF. -/
def lead (b : UInt8) : Lead :=
  let n := b.toNat
  if n < 0x80 then .ascii n
  else if n < 0xC2 then .none
  else if n < 0xE0 then .long 1 (n - 0xC0) 0x80 0xBF
  else if n = 0xE0 then .long 2 0 0xA0 0xBF
  else if n = 0xED then .long 2 0xD 0x80 0x9F
  else if n < 0xF0 then .long 2 (n - 0xE0) 0x80 0xBF
  else if n = 0xF0 then .long 3 0 0x90 0xBF
  else if n < 0xF4 then .long 3 (n - 0xF0) 0x80 0xBF
  else if n = 0xF4 then .long 3 4 0x80 0x8F
  else .none

/-- Reads `more` octets that continue a character, the first of them between `low` and `high`.
The result is the value, if the sequence is whole, and the octets that were not read. -/
def continued : Nat → Nat → Nat → Nat → List UInt8 → Option Nat × List UInt8
  | 0, value, _, _, bs => (some value, bs)
  | _ + 1, _, _, _, [] => (none, [])
  | more + 1, value, low, high, b :: bs =>
    if low ≤ b.toNat ∧ b.toNat ≤ high then
      continued more (value * 0x40 + (b.toNat - 0x80)) 0x80 0xBF bs
    else (none, b :: bs)

theorem continued_length (more value low high : Nat) (bs : List UInt8) :
    (continued more value low high bs).2.length ≤ bs.length := by
  induction more generalizing value low high bs with
  | zero => simp [continued]
  | succ more ih =>
    cases bs with
    | nil => simp [continued]
    | cons b bs =>
      rw [continued]
      split
      · exact Nat.le_succ_of_le (ih _ _ _ _)
      · simp

/-- The characters of the octets, `none` standing for each damaged sequence. -/
def scan : List UInt8 → List (Option Char)
  | [] => []
  | b :: bs =>
    match lead b with
    | .ascii n => some (Char.ofNat n) :: scan bs
    | .none => none :: scan bs
    | .long more bits low high =>
      let r := continued more bits low high bs
      have : r.2.length < bs.length + 1 := Nat.lt_succ_of_le (continued_length _ _ _ _ _)
      r.1.map Char.ofNat :: scan r.2
termination_by bs => bs.length
decreasing_by
  · exact Nat.lt_succ_self _
  · exact Nat.lt_succ_self _
  · exact this

/-- The text of the octets if they are well-formed. -/
def decode? (bs : List UInt8) : Option (List Char) := (scan bs).mapM id

/-- The text of the octets with U+FFFD for each damaged sequence. -/
def decodeLossy (bs : List UInt8) : List Char := (scan bs).map (·.getD '\uFFFD')

end TaintClient.Text.Utf8

/-
  The spelling of a text in letters, digits and hyphens: first its ASCII characters, then, behind
  a hyphen, where the others go. Each of those is a number of the distance from the last one,
  in digits to the base 36 whose weights follow the sizes of the numbers before.
-/

namespace TaintClient.Domain.Punycode

/-- The character of a digit. -/
def digit (d : Nat) : Char := Char.ofNat (if d < 26 then 97 + d else 22 + d)

/-- The digit of a character; capitals count as small letters. -/
def digit? (c : Char) : Option Nat :=
  let n := c.toNat
  if 97 ≤ n ∧ n ≤ 122 then some (n - 97)
  else if 65 ≤ n ∧ n ≤ 90 then some (n - 65)
  else if 48 ≤ n ∧ n ≤ 57 then some (n - 22)
  else none

/-- A digit at place `k` below this number is the last of its number. -/
def threshold (k bias : Nat) : Nat :=
  if k ≤ bias then 1 else if bias + 26 ≤ k then 26 else k - bias

theorem threshold_pos (k bias : Nat) : 1 ≤ threshold k bias := by
  unfold threshold
  split
  · omega
  · split <;> omega

theorem threshold_le (k bias : Nat) : threshold k bias ≤ 26 := by
  unfold threshold
  split
  · omega
  · split <;> omega

/-- The bias of a distance that has been divided often enough, counted by `k`. -/
def settle (delta k : Nat) : Nat :=
  if 455 < delta then settle (delta / 35) (k + 36) else k + 36 * delta / (delta + 38)
termination_by delta

/-- The bias behind a number, the first one of a text or a later one. -/
def adapt (delta count : Nat) (first : Bool) : Nat :=
  let d := if first then delta / 700 else delta / 2
  settle (d + d / count) 0

/-! ## Writing -/

/-- The digits of a number from place `k` on. -/
def writeNumber (bias k q : Nat) : List Char :=
  let t := threshold k bias
  if q < t then [digit q]
  else digit (t + (q - t) % (36 - t)) :: writeNumber bias (k + 36) ((q - t) / (36 - t))
termination_by q
decreasing_by
  have := threshold_pos k bias
  have := threshold_le k bias
  have := Nat.div_le_self (q - threshold k bias) (36 - threshold k bias)
  omega

/-- A text while it is spelled: the digits so far, the distance from the last character, the bias
and the number of characters done. -/
structure Writing where
  digits : List Char := []
  delta : Nat := 0
  bias : Nat := 72
  count : Nat

/-- Passes one character of the text while the characters `n` are spelled. -/
def Writing.pass (basic n : Nat) (w : Writing) (c : Char) : Writing :=
  if c.toNat < n then { w with delta := w.delta + 1 }
  else if c.toNat = n then
    ⟨w.digits ++ writeNumber w.bias 36 w.delta, 0,
      adapt w.delta (w.count + 1) (w.count = basic), w.count + 1⟩
  else w

/-- Spells the characters `ns` of the text, in increasing order; `last` is the one before. -/
def writeFrom (s : List Char) (basic : Nat) : List Nat → Nat → Writing → Writing
  | [], _, w => w
  | n :: ns, last, w =>
    let w := { w with delta := w.delta + (n - last) * (w.count + 1) }
    let w := s.foldl (Writing.pass basic n) w
    writeFrom s basic ns (n + 1) { w with delta := w.delta + 1 }

/-- Adds a number to an increasing list, once. -/
def insertNumber (n : Nat) : List Nat → List Nat
  | [] => [n]
  | m :: ms => if n < m then n :: m :: ms else if n = m then m :: ms else m :: insertNumber n ms

/-- Whether a character is ASCII. -/
def isBasic (c : Char) : Bool := c.toNat < 128

/-- The spelling of a text. -/
def encode (s : List Char) : List Char :=
  let basic := s.filter isBasic
  let others := ((s.filter (!isBasic ·)).map Char.toNat).foldr insertNumber []
  let head := if basic.isEmpty then [] else basic ++ ['-']
  head ++ (writeFrom s basic.length others 128 { count := basic.length }).digits

/-! ## Reading -/

/-- Reads a number from place `k` on; `weight` is the weight of the next digit, `value` that of
those before. -/
def readNumber (bias : Nat) : List Char → Nat → Nat → Nat → Option (Nat × List Char)
  | [], _, _, _ => none
  | c :: cs, k, weight, value =>
    match digit? c with
    | none => none
    | some d =>
      let t := threshold k bias
      if d < t then some (value + d * weight, cs)
      else readNumber bias cs (k + 36) (weight * (36 - t)) (value + d * weight)

theorem length_readNumber {bias : Nat} {s r : List Char} {k w v n : Nat}
    (h : readNumber bias s k w v = some (n, r)) : r.length < s.length := by
  induction s generalizing k w v with
  | nil => cases h
  | cons c cs ih =>
    rw [readNumber] at h
    split at h
    · cases h
    · simp only at h
      split at h
      · injection h with h
        injection h with _ h
        subst h
        simp
      · exact Nat.lt_succ_of_lt (ih h)

/-- Reads the characters behind the hyphen into the text. `place` is where the last one went and
`n` is which it was. -/
def readFrom (bias place n : Nat) (text s : List Char) : Option (List Char) :=
  match s with
  | [] => some text
  | c :: cs =>
    match h : readNumber bias (c :: cs) 36 1 0 with
    | none => none
    | some (delta, rest) =>
      have : rest.length < cs.length + 1 := length_readNumber h
      let size := text.length + 1
      let i := place + delta
      let n := n + i / size
      if n.isValidChar then
        readFrom (adapt delta size (text.all isBasic)) (i % size + 1) n
          (text.insertIdx (i % size) (Char.ofNat n)) rest
      else none
termination_by s.length

/-- The text that is spelled. -/
def decode (s : List Char) : Option (List Char) :=
  let tail := (s.reverse.takeWhile (· ≠ '-')).reverse
  let head := s.take (s.length - tail.length - 1)
  if ¬ head.all isBasic then none
  else if head.isEmpty then readFrom 72 0 128 [] s
  else readFrom 72 0 128 head tail

end TaintClient.Domain.Punycode

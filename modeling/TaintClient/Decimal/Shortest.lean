/-
  The shortest decimal that reads back as a given double-precision number. A positive number is
  `mantissa · 2 ^ exponent`; the reals that round to it form an interval, and for one digit, two
  digits and so on the two decimals next to the number are tried until one lies inside. All of it
  is exact arithmetic on natural numbers.
-/

namespace TaintClient.Decimal

/-- The decimal `digits · 10 ^ exponent`. -/
structure Numeral where
  digits : Nat
  exponent : Int
deriving Repr, DecidableEq

/-- A positive binary number `mantissa · 2 ^ exponent`. The number below it is nearer by half when
`narrow` holds, which is so at a power of two. -/
structure Binary where
  mantissa : Nat
  exponent : Int
  narrow : Bool
deriving Repr, DecidableEq

/-- Reads the fields of a double-precision number, its sign left out. -/
def Binary.ofFloat (x : Float) : Binary :=
  let bits : Nat := x.toBits.toNat % Nat.pow 2 63
  let fraction : Nat := bits % Nat.pow 2 52
  let field : Nat := bits / Nat.pow 2 52
  if field = 0 then ⟨fraction, -1074, false⟩
  else ⟨Nat.pow 2 52 + fraction, (field : Int) - 1075, fraction = 0 ∧ 1 < field⟩

/-- A fraction of natural numbers. -/
structure Ratio where
  num : Nat
  den : Nat

/-- `a · 2 ^ e`. -/
def Ratio.scaled (a : Nat) (e : Int) : Ratio :=
  if 0 ≤ e then ⟨a * Nat.pow 2 e.toNat, 1⟩ else ⟨a, Nat.pow 2 (-e).toNat⟩

/-- The fraction divided by `10 ^ e`. -/
def Ratio.shift (r : Ratio) (e : Int) : Ratio :=
  if 0 ≤ e then ⟨r.num, r.den * Nat.pow 10 e.toNat⟩ else ⟨r.num * Nat.pow 10 (-e).toNat, r.den⟩

/-- The number of decimal digits of a natural number, one for zero. -/
def digitCount (n : Nat) : Nat := (Nat.toDigits 10 n).length

/-- How many times a fraction below one has to be multiplied by ten to reach one, up to `fuel`
times. -/
def leadingZeros : Nat → Ratio → Nat
  | 0, _ => 0
  | fuel + 1, r => if r.den ≤ r.num then 0 else leadingZeros fuel ⟨r.num * 10, r.den⟩ + 1

/-- The exponent of the first decimal digit. A double-precision number is above `10 ^ -330`. -/
def Ratio.magnitude (r : Ratio) : Int :=
  if r.den ≤ r.num then (digitCount (r.num / r.den) : Int) - 1
  else -(leadingZeros 330 r : Int)

/-- Of the decimals with `count` digits next to the number, one that rounds to it, if there is
one; of two the nearer, of two equally near the even one. -/
def Binary.decimal? (x : Binary) (count : Nat) : Option Numeral :=
  let value := Ratio.scaled (4 * x.mantissa) (x.exponent - 2)
  let unit := value.magnitude - (count : Int) + 1
  let v := value.shift unit
  let low := (Ratio.scaled (4 * x.mantissa - if x.narrow then 1 else 2) (x.exponent - 2)).shift unit
  let high := (Ratio.scaled (4 * x.mantissa + 2) (x.exponent - 2)).shift unit
  let closed := x.mantissa % 2 = 0
  let below := v.num / v.den
  let inside (d : Nat) : Bool :=
    if closed then low.num ≤ d * low.den ∧ d * high.den ≤ high.num
    else low.num < d * low.den ∧ d * high.den < high.num
  let remainder := v.num % v.den
  let pick (d : Nat) : Option Numeral := some ⟨d, unit⟩
  match inside below, inside (below + 1) with
  | true, true =>
    if 2 * remainder < v.den then pick below
    else if v.den < 2 * remainder then pick (below + 1)
    else pick (if below % 2 = 0 then below else below + 1)
  | true, false => pick below
  | false, true => pick (below + 1)
  | false, false => none

/-- The first count of digits from `count` on that has a decimal, within `fuel` attempts. -/
def Binary.search (x : Binary) : Nat → Nat → Numeral
  | 0, _ => ⟨0, 0⟩
  | fuel + 1, count => (x.decimal? count).getD (search x fuel (count + 1))

/-- The decimal without trailing zero digits. -/
def Numeral.trim (d : Numeral) : Numeral :=
  let text := (Nat.toDigits 10 d.digits).reverse
  let zeros := (text.takeWhile (· = '0')).length
  if d.digits = 0 then ⟨0, 0⟩ else ⟨d.digits / Nat.pow 10 zeros, d.exponent + zeros⟩

/-- The shortest decimal of a finite number, its sign left out. Seventeen digits always do. -/
def shortest (x : Float) : Numeral :=
  let b := Binary.ofFloat x
  if b.mantissa = 0 then ⟨0, 0⟩ else (b.search 17 1).trim

end TaintClient.Decimal

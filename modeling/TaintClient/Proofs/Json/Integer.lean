/-
  Integers in decimal digits. The digits of a number below `2 ^ 64` are read as that number, if
  they do not begin with a zero too many and nothing behind them goes on with a number.
-/
import TaintClient.Proofs.Json.Reads
import TaintClient.Proofs.Text.Digits
import TaintClient.Proofs.Text.Parts

namespace TaintClient.Json

/-- Whether nothing in a text goes on with the number in front of it. -/
def EndsNumber (t : List Char) : Prop :=
  ∀ x, t.head? = some x → x.isDigit = false ∧ x ≠ '.' ∧ x ≠ 'e' ∧ x ≠ 'E'

/-- Whether digits write a number: there are some, and only zero itself begins with a zero. -/
structure Numeral (s : List Char) : Prop where
  digits : ∀ x ∈ s, x.isDigit = true
  nonempty : s ≠ []
  first : s.head? = some '0' → s.tail = []

/-! ## Digits -/

theorem isSpace_of_isDigit {x : Char} (hx : x.isDigit = true) : Cursor.isSpace x = false := by
  rw [Bool.eq_false_iff]
  intro h
  simp only [Cursor.isSpace, Bool.or_eq_true, decide_eq_true_eq] at h
  obtain ((rfl | rfl) | rfl) | rfl := h <;> cases hx

/-- No digit is left out of a number below `2 ^ 64`. -/
theorem accumulate_eq (s : List Char) (n : Nat) (h : Nat.ofDigitChars 10 s n < UInt64.size) :
    accumulate n s = (Nat.ofDigitChars 10 s n, 0) := by
  induction s generalizing n with
  | nil => rfl
  | cons x s ih =>
    rw [Nat.ofDigitChars_cons, Nat.mul_comm 10 n] at h ⊢
    have hlt := Nat.lt_of_le_of_lt (Text.le_ofDigitChars s _) h
    rw [accumulate, digitValue, if_pos hlt, ih _ h]

theorem numeral_toDigits (n : Nat) : Numeral (Nat.toDigits 10 n) where
  digits x hx := Nat.isDigit_of_mem_toDigits (by decide) (by decide) hx
  nonempty := Nat.toDigits_ne_nil
  first h := by
    by_cases hn : n = 0
    · rw [hn]
      rfl
    · exact absurd h (Text.head?_toDigits_ne_zero (by decide) (by decide) (Nat.pos_of_ne_zero hn))

/-! ## Reading -/

theorem digits_append {s t : List Char} (hs : ∀ x ∈ s, x.isDigit = true)
    (ht : ∀ x, t.head? = some x → x.isDigit = false) (p : Place) :
    Cursor.digits ⟨s ++ t, p⟩ = s := by
  rw [Cursor.digits, Text.takeWhile_append_of_head? hs ht]

/-- A first zero is the only digit. -/
theorem Numeral.zero_alone {x : Char} {s t : List Char} (hs : Numeral (x :: s))
    (ht : ∀ y, t.head? = some y → y.isDigit = false) :
    ¬ (x = '0' ∧ ((s ++ t).head?.any Char.isDigit) = true) := by
  rintro ⟨rfl, h⟩
  obtain rfl : s = [] := hs.first rfl
  cases t with
  | nil => cases h
  | cons y t => simp [ht y rfl] at h

/-- A numeral below `2 ^ 64` is read as its number, whose sign was read before. -/
theorem readNumber_numeral (positive : Bool) {s t : List Char} (hs : Numeral s)
    (ht : EndsNumber t) (hlt : Nat.ofDigitChars 10 s 0 < UInt64.size) (p : Place) :
    ∃ q, readNumber positive ⟨s ++ t, p⟩ =
      if positive then .ok (.natural (Nat.ofDigitChars 10 s 0), ⟨t, q⟩)
      else if 1 ≤ Nat.ofDigitChars 10 s 0 ∧ Nat.ofDigitChars 10 s 0 ≤ 9223372036854775808 then
        .ok (.negative (-Nat.ofDigitChars 10 s 0), ⟨t, q⟩)
      else .ok (.float (-(Nat.ofDigitChars 10 s 0).toUInt64.toFloat), ⟨t, q⟩) := by
  obtain ⟨q, hq⟩ := Cursor.skipWhile_append Char.isDigit hs.digits (fun x hx => (ht x hx).1) p
  have hskip : Cursor.skipDigits ⟨s ++ t, p⟩ = ⟨t, q⟩ := hq
  have hdigits := digits_append hs.digits (fun x hx => (ht x hx).1) p
  have hdot : t.head? ≠ some '.' := fun h => (ht _ h).2.1 rfl
  have hexp : atExponent ⟨t, q⟩ = false := by
    have he : t.head? ≠ some 'e' := fun h => (ht _ h).2.2.1 rfl
    have hE : t.head? ≠ some 'E' := fun h => (ht _ h).2.2.2 rfl
    simp [atExponent, he, hE]
  refine ⟨q, ?_⟩
  cases s with
  | nil => exact absurd rfl hs.nonempty
  | cons x s =>
    have hx : x.isDigit = true := hs.digits x List.mem_cons_self
    have hzero := hs.zero_alone fun y hy => (ht y hy).1
    rw [List.cons_append] at hskip hdigits ⊢
    simp only [readNumber, hx, not_true_eq_false, if_false, hzero, hskip, hdigits,
      accumulate_eq (x :: s) 0 hlt, hdot, hexp, Bool.false_eq_true, ne_eq]

end TaintClient.Json

/-
  Numbers in digits, in any base up to sixteen: an induction over the digits of a number, and what
  follows from it for reading them.
-/
import Mathlib.Data.List.Basic
import Mathlib.Data.List.Induction
import TaintClient.Text.CodeTable

namespace TaintClient.Text

variable {b : Nat}

/-- What holds of single digits, and of the digits of a number with another one behind them if it
holds of these, holds of the digits of every number. -/
theorem toDigits_induction (hb : 1 < b) {P : Nat → List Char → Prop}
    (hdigit : ∀ d < b, P d [Nat.digitChar d])
    (hmore : ∀ n s d, 0 < n → d < b → P n s → P (n * b + d) (s ++ [Nat.digitChar d])) (n : Nat) :
    P n (Nat.toDigits b n) := by
  induction n using Nat.strongRecOn with
  | ind n ih =>
    rw [Nat.toDigits_eq_if hb]
    split
    · exact hdigit n ‹_›
    · rename_i hn
      have hpos : 0 < n / b := Nat.div_pos (Nat.le_of_not_lt hn) (by omega)
      have hlt : n / b < n := Nat.div_lt_self (by omega) hb
      have hlast := hmore (n / b) _ (n % b) hpos (Nat.mod_lt n (by omega)) (ih _ hlt)
      rwa [Nat.div_add_mod' n b] at hlast

theorem forall_mem_toDigits (hb : 1 < b) {P : Char → Prop} (h : ∀ d < b, P (Nat.digitChar d))
    (n : Nat) : ∀ c ∈ Nat.toDigits b n, P c :=
  toDigits_induction hb (P := fun _ s => ∀ c ∈ s, P c)
    (fun d hd => List.forall_mem_singleton.mpr (h d hd))
    (fun _ _ d _ hd hs => List.forall_mem_append.mpr ⟨hs, List.forall_mem_singleton.mpr (h d hd)⟩) n

/-- Only zero begins with a zero. -/
theorem head?_toDigits_ne_zero (hb : 1 < b) (hb' : b ≤ 16) {n : Nat} (hn : 0 < n) :
    (Nat.toDigits b n).head? ≠ some '0' := by
  have hfirst : ∀ d < 16, 0 < d → Nat.digitChar d ≠ '0' := by decide
  refine (toDigits_induction hb
    (P := fun n s => s ≠ [] ∧ (0 < n → s.head? ≠ some '0')) ?_ ?_ n).2 hn
  · intro d hd
    exact ⟨List.cons_ne_nil _ _, fun hpos heq => hfirst d (by omega) hpos (Option.some.inj heq)⟩
  · intro n s d hn _ ⟨hs, hhead⟩
    refine ⟨List.append_ne_nil_of_left_ne_nil hs _, fun _ => ?_⟩
    rw [List.head?_append_of_ne_nil _ hs]
    exact hhead hn

/-- Digits that are read one by one give their number. -/
theorem foldl_toDigits (hb : 1 < b) {f : Nat → Char → Nat}
    (hf : ∀ m, ∀ d < b, f m (Nat.digitChar d) = m * b + d) (n : Nat) :
    (Nat.toDigits b n).foldl f 0 = n := by
  refine toDigits_induction hb (P := fun n s => s.foldl f 0 = n) ?_ ?_ n
  · intro d hd
    rw [List.foldl_cons, List.foldl_nil, hf 0 d hd, Nat.zero_mul, Nat.zero_add]
  · intro n s d _ hd hs
    rw [List.foldl_append, hs, List.foldl_cons, List.foldl_nil, hf n d hd]

theorem foldl_digits (s : List Char) (n : Nat) :
    s.foldl (fun n c => n * 10 + (c.toNat - 48)) n = Nat.ofDigitChars 10 s n := by
  induction s generalizing n with
  | nil => rfl
  | cons c s ih =>
    rw [List.foldl_cons, Nat.ofDigitChars_cons, ih, Nat.mul_comm 10 n]
    rfl

theorem le_ofDigitChars (s : List Char) (n : Nat) : n ≤ Nat.ofDigitChars 10 s n := by
  induction s generalizing n with
  | nil => exact Nat.le_refl n
  | cons x s ih =>
    rw [Nat.ofDigitChars_cons]
    have := ih (10 * n + (x.toNat - '0'.toNat))
    omega

/-! ## Base sixteen -/

theorem hexValue?_digitChar : ∀ d < 16, hexValue? (Nat.digitChar d) = some d := by decide

theorem hexNumber_hexDigits (n : Nat) : hexNumber (hexDigits n) = n :=
  foldl_toDigits (by decide) (fun m d hd => by rw [hexValue?_digitChar d hd]) n

theorem length_hexDigits_le {n : Nat} (h : n < 65536) : (hexDigits n).length ≤ 4 :=
  (Nat.length_toDigits_le_iff (by decide) (by decide)).mpr h

theorem hexNumber_lt (s : List Char) : hexNumber s < Nat.pow 16 s.length := by
  have hvalue (c : Char) : ∀ d ∈ hexValue? c, d < 16 := by
    intro d hd
    unfold hexValue? at hd
    grind
  induction s using List.reverseRecOn with
  | nil => decide
  | append_singleton s c ih =>
    have hpow : Nat.pow 16 (s ++ [c]).length = Nat.pow 16 s.length * 16 := by
      rw [List.length_append]
      rfl
    rw [hexNumber] at ih
    rw [hpow, hexNumber, List.foldl_append, List.foldl_cons, List.foldl_nil]
    split
    · rename_i d hd
      have hlt : d < 16 := hvalue c d hd
      omega
    · omega

end TaintClient.Text

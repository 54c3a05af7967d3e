/-
  Texts in two parts: a beginning that satisfies a condition and what follows it, and what stands
  before the first and behind the last of a sign.
-/
import Mathlib.Data.List.TakeWhile

namespace TaintClient.Text

variable {α : Type} {p : α → Bool} {s t : List α}

/-! ## As long as a condition holds -/

theorem takeWhile_append_of_head? (hs : ∀ x ∈ s, p x = true)
    (ht : ∀ x, t.head? = some x → p x = false) : (s ++ t).takeWhile p = s := by
  have hstop : t.takeWhile p = [] := by
    cases t with
    | nil => rfl
    | cons x t => rw [List.takeWhile_cons, ht x rfl]; rfl
  rw [List.takeWhile_append_of_pos hs, hstop, List.append_nil]

theorem dropWhile_append_of_head? (hs : ∀ x ∈ s, p x = true)
    (ht : ∀ x, t.head? = some x → p x = false) : (s ++ t).dropWhile p = t := by
  rw [List.dropWhile_append_of_pos hs]
  cases t with
  | nil => rfl
  | cons x t => rw [List.dropWhile_cons, ht x rfl]; rfl

/-! ## Up to a sign -/

variable [DecidableEq α] {a : α}

theorem forall_mem_ne (h : a ∉ s) : ∀ x ∈ s, decide (x ≠ a) = true :=
  fun _ hx => decide_eq_true fun heq => h (heq ▸ hx)

theorem takeWhile_of_not_mem (h : a ∉ s) : s.takeWhile (· ≠ a) = s :=
  List.takeWhile_eq_self_iff.mpr (forall_mem_ne h)

theorem takeWhile_append_sign (h : a ∉ s) (t : List α) :
    (s ++ a :: t).takeWhile (· ≠ a) = s :=
  takeWhile_append_of_head? (forall_mem_ne h) (by rintro _ ⟨⟩; simp)

theorem dropWhile_append_sign (h : a ∉ s) (t : List α) :
    (s ++ a :: t).dropWhile (· ≠ a) = a :: t :=
  dropWhile_append_of_head? (forall_mem_ne h) (by rintro _ ⟨⟩; simp)

/-- What stands behind the last sign. -/
theorem behindLast_append (h : a ∉ t) (s : List α) :
    ((s ++ a :: t).reverse.takeWhile (· ≠ a)).reverse = t := by
  have hreverse : a ∉ t.reverse := fun hmem => h (List.mem_reverse.mp hmem)
  rw [List.reverse_append, List.reverse_cons, List.append_assoc, List.singleton_append,
    takeWhile_append_sign hreverse, List.reverse_reverse]

theorem behindLast_of_not_mem (h : a ∉ t) : (t.reverse.takeWhile (· ≠ a)).reverse = t := by
  rw [takeWhile_of_not_mem fun hmem => h (List.mem_reverse.mp hmem), List.reverse_reverse]

end TaintClient.Text

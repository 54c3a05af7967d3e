/-
  What readers do to the text in front of them. A reader that reads a value off a text does so at
  every place, and leaves the rest of the text; only faults tell the place.
-/
import TaintClient.Json.Reader
import TaintClient.Proofs.Except

namespace TaintClient.Json

/-- Wherever the text `s` stands, the reader reads `x` and leaves the text `t`. -/
def Reads {α : Type} (read : Cursor → Except Fault (α × Cursor)) (s : List Char) (x : α)
    (t : List Char) : Prop :=
  ∀ p, ∃ q, read ⟨s, p⟩ = .ok (x, ⟨t, q⟩)

/-- Wherever the text `s` stands, the reader steps over it up to the text `t`. -/
def Passes (step : Cursor → Except Fault Cursor) (s t : List Char) : Prop :=
  ∀ p, ∃ q, step ⟨s, p⟩ = .ok ⟨t, q⟩

namespace Cursor

@[simp] theorem next_cons (x : Char) (s : List Char) (p : Place) :
    next ⟨x :: s, p⟩ = ⟨s, p.after x⟩ := rfl

theorem skipWhile_append (f : Char → Bool) {s t : List Char} (hs : ∀ x ∈ s, f x = true)
    (ht : ∀ x, t.head? = some x → f x = false) (p : Place) :
    ∃ q, skipWhile f (s ++ t) p = ⟨t, q⟩ := by
  induction s generalizing p with
  | nil =>
    cases t with
    | nil => exact ⟨p, rfl⟩
    | cons x t =>
      refine ⟨p, ?_⟩
      rw [List.nil_append, skipWhile, ht x rfl]
      rfl
  | cons x s ih =>
    rw [List.cons_append, skipWhile, if_pos (hs x List.mem_cons_self)]
    exact ih (fun y hy => hs y (List.mem_cons_of_mem x hy)) (p.after x)

/-- A text that begins with a token is left as it is. -/
theorem skipSpace_cons {x : Char} (hx : isSpace x = false) (s : List Char) (p : Place) :
    skipSpace ⟨x :: s, p⟩ = ⟨x :: s, p⟩ := by
  simp only [skipSpace, skipWhile, hx, Bool.false_eq_true, if_false]

theorem rest_next {c : Cursor} {x : Char} (h : c.rest.head? = some x) :
    c.rest = x :: c.next.rest := by
  unfold next
  split
  · rename_i hnil
    rw [hnil] at h
    cases h
  · rename_i y ys hcons
    rw [hcons] at h ⊢
    rw [Option.some_inj.mp h]

end Cursor

end TaintClient.Json

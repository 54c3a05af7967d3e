/-
  Labels that submissions hold. On a report page a label that `n` submissions hold counts `n`, and
  it reads its own text when `n` is zero and the text of a submission under way when it is not; on
  a plain page every label is at rest. Marking adds one to the count of its mode; giving a mark
  back takes one away where there is one to take.
-/
import TaintClient.Proofs.Panel.Effect

namespace TaintClient

namespace StatusLabel

/-- A label with a text of its own while `n` submissions hold it. -/
def heldBy (text : String) (n : Nat) : StatusLabel :=
  ⟨text, if n = 0 then text else Report.analyzingText, n⟩

theorem hold_heldBy (text : String) (n : Nat) : (heldBy text n).hold = heldBy text (n + 1) := rfl

/-- The last release brings back the text; an earlier one finds the label held by others. -/
theorem release_heldBy (text : String) (n : Nat) :
    (heldBy text (n + 1)).release = heldBy text n := by
  cases n with
  | zero => rfl
  | succ n => rfl

/-- A label that nobody holds is released without effect. -/
theorem release_heldBy_pred (text : String) (n : Nat) :
    (heldBy text n).release = heldBy text (n - 1) := by
  cases n with
  | zero => rfl
  | succ n => exact release_heldBy text n

end StatusLabel

namespace Panel

/-- No submission holds a label. -/
def AtRest (p : Panel) : Prop := ∀ m, p.label m = .ofText (p.labelText m)

theorem atRest_fresh (v : PageVariant) : (fresh v).AtRest := by
  intro m
  cases m <;> rfl

theorem atRest_withLabel {p : Panel} (h : p.AtRest) (m : Mode) (text : String) :
    (p.withLabel m text).AtRest := by
  intro n
  by_cases hn : n = m
  · subst hn
    simp only [labelText, withLabel, label_setLabel]
    rfl
  · have hl : (p.withLabel m text).label n = p.label n := label_setLabel_of_ne p _ hn
    rw [labelText, hl]
    exact h n

theorem atRest_withLabels {p : Panel} (h : p.AtRest) (labels : List (Mode × String)) :
    (p.withLabels labels).AtRest := by
  induction labels generalizing p with
  | nil => exact h
  | cons l ls ih => exact ih (atRest_withLabel h l.1 l.2)

theorem variant_withLabels (p : Panel) (labels : List (Mode × String)) :
    (p.withLabels labels).variant = p.variant := by
  induction labels generalizing p with
  | nil => rfl
  | cons l ls ih => exact (ih _).trans (variant_setLabel p l.1 _)

/-- On a report page `held m` submissions hold the label of the mode `m`; on a plain page none
does. -/
def LabelsHeld (p : Panel) (text : Mode → String) (held : Mode → Nat) : Prop :=
  ∀ m, p.label m = .heldBy (text m) (match p.variant with | .plain => 0 | .report => held m)

variable {p q : Panel} {text : Mode → String} {held held' : Mode → Nat}

theorem labelsHeld_of_atRest (h : p.AtRest) : p.LabelsHeld p.labelText fun _ => 0 := by
  intro m
  rw [h m]
  cases p.variant <;> rfl

/-- The law reads the labels and the variant only. -/
theorem LabelsHeld.congr (h : p.LabelsHeld text held) (hv : q.variant = p.variant)
    (hl : ∀ m, q.label m = p.label m) : q.LabelsHeld text held := by
  intro m
  rw [hl m, hv]
  exact h m

theorem labelsHeld_start (h : p.LabelsHeld text held) {m : Mode} (hm : held' m = held m + 1)
    (hn : ∀ n, n ≠ m → held' n = held n) : (p.start m).LabelsHeld text held' := by
  intro n
  have hp := h n
  rw [variant_start]
  cases hv : p.variant with
  | plain =>
    rw [hv] at hp
    rw [label_start_of_plain hv, hp]
  | report =>
    rw [hv] at hp
    by_cases he : n = m
    · subst he
      rw [label_start_self hv, hp, StatusLabel.hold_heldBy, hm]
    · rw [label_start_of_ne p he, hp, hn n he]

theorem labelsHeld_release (h : p.LabelsHeld text held) {m : Mode} (hm : held' m + 1 = held m)
    (hn : ∀ n, n ≠ m → held' n = held n) : (p.release m).LabelsHeld text held' := by
  intro n
  have hp := h n
  rw [variant_release]
  cases hv : p.variant with
  | plain =>
    rw [hv] at hp
    rw [label_release_of_plain hv, hp]
  | report =>
    rw [hv] at hp
    by_cases he : n = m
    · subst he
      rw [label_release_self hv, hp, ← hm, StatusLabel.release_heldBy]
    · rw [label_release_of_ne p he, hp, hn n he]

end Panel

end TaintClient

/-
  Texts of one line, without line feeds and carriage returns, and texts of printable ASCII
  characters, which are of one line. Numbers are written in such characters, and a quoted text is
  of one line whatever it quotes.
-/
import Mathlib.Data.List.Basic
import Mathlib.Tactic.SplitIfs
import TaintClient.Proofs.Text.Digits
import TaintClient.Text.Quoted

namespace TaintClient.Text

variable {s t : List Char}

/-- What holds of every character of some parts and of what separates them holds of every
character of the whole. -/
theorem forall_mem_intercalate {P : Char → Prop} {sep : List Char} (hsep : ∀ c ∈ sep, P c)
    {parts : List (List Char)} (h : ∀ p ∈ parts, ∀ c ∈ p, P c) :
    ∀ c ∈ sep.intercalate parts, P c := by
  induction parts with
  | nil => exact List.forall_mem_nil P
  | cons p parts ih =>
    rw [List.forall_mem_cons] at h
    cases parts with
    | nil =>
      rw [List.intercalate_singleton]
      exact h.1
    | cons q parts =>
      rw [List.intercalate_cons_cons, List.forall_mem_append, List.forall_mem_append]
      exact ⟨⟨h.1, hsep⟩, ih h.2⟩

/-! ## One line -/

/-- Whether a text has no line breaks. -/
def OneLine (s : List Char) : Prop := ∀ c ∈ s, c ≠ '\n' ∧ c ≠ '\r'

-- by the list, where it is computed: not by the type of all characters, which is finite too
instance (s : List Char) : Decidable (OneLine s) :=
  List.decidableBAll (fun c => c ≠ '\n' ∧ c ≠ '\r') s

@[simp] theorem oneLine_nil : OneLine [] := List.forall_mem_nil _

@[simp] theorem oneLine_cons {c : Char} :
    OneLine (c :: s) ↔ (c ≠ '\n' ∧ c ≠ '\r') ∧ OneLine s := List.forall_mem_cons

@[simp] theorem oneLine_append : OneLine (s ++ t) ↔ OneLine s ∧ OneLine t :=
  List.forall_mem_append

theorem OneLine.intercalate {sep : List Char} (hsep : OneLine sep) {parts : List (List Char)}
    (h : ∀ p ∈ parts, OneLine p) : OneLine (sep.intercalate parts) := forall_mem_intercalate hsep h

/-! ## Printable characters -/

/-- Whether a text has printable ASCII characters only. -/
def Printable (s : List Char) : Prop := ∀ c ∈ s, 32 ≤ c.toNat ∧ c.toNat ≤ 126

instance (s : List Char) : Decidable (Printable s) :=
  List.decidableBAll (fun c : Char => 32 ≤ c.toNat ∧ c.toNat ≤ 126) s

@[simp] theorem printable_nil : Printable [] := List.forall_mem_nil _

@[simp] theorem printable_cons {c : Char} :
    Printable (c :: s) ↔ (32 ≤ c.toNat ∧ c.toNat ≤ 126) ∧ Printable s := List.forall_mem_cons

@[simp] theorem printable_append : Printable (s ++ t) ↔ Printable s ∧ Printable t :=
  List.forall_mem_append

theorem Printable.intercalate {sep : List Char} (hsep : Printable sep) {parts : List (List Char)}
    (h : ∀ p ∈ parts, Printable p) : Printable (sep.intercalate parts) :=
  forall_mem_intercalate hsep h

theorem Printable.oneLine (h : Printable s) : OneLine s := by
  intro c hc
  have hc := h c hc
  refine ⟨?_, ?_⟩ <;> (rintro rfl; revert hc; decide)

/-- Digits are printable, in any base up to sixteen. -/
theorem printable_toDigits {b : Nat} (hb : 1 < b) (hb' : b ≤ 16) (n : Nat) :
    Printable (Nat.toDigits b n) := by
  have hdigit : ∀ d < 16, 32 ≤ (Nat.digitChar d).toNat ∧ (Nat.digitChar d).toNat ≤ 126 := by decide
  exact forall_mem_toDigits hb (fun d hd => hdigit d (by omega)) n

theorem printable_decimal (n : Nat) : Printable (Nat.toDigits 10 n) :=
  printable_toDigits (by decide) (by decide) n

/-- A number is shown on one line. -/
theorem oneLine_toString (n : Nat) : OneLine (toString n).toList := by
  have h : (toString n).toList = Nat.toDigits 10 n := String.toList_ofList
  exact h ▸ (printable_decimal n).oneLine

theorem printable_hexDigits (n : Nat) : Printable (hexDigits n) :=
  printable_toDigits (by decide) (by decide) n

/-! ## Quoted texts -/

theorem Quoted.oneLine_escape (c : Char) : OneLine (escape c) := by
  unfold escape
  split_ifs with _ _ _ _ _ _ hnumber
  all_goals try decide
  · rw [oneLine_append, oneLine_append]
    exact ⟨⟨by decide, (printable_hexDigits _).oneLine⟩, by decide⟩
  · rw [oneLine_cons]
    exact ⟨⟨‹_›, ‹_›⟩, oneLine_nil⟩

/-- Whatever is quoted, a quoted text is of one line. -/
theorem Quoted.oneLine_quote (s : List Char) : OneLine (quote s) := by
  unfold quote
  rw [oneLine_append, oneLine_cons]
  exact ⟨⟨by decide, List.forall_mem_flatMap.mpr fun c _ => oneLine_escape c⟩, by decide⟩

end TaintClient.Text

/-
  The count of a label in closed form, on a report page that any operations are done on, in any
  order: marks may be given back that nobody holds, and labels may be written in between. A count
  stops at zero, so it is not the sum of what the operations add to it. It is the greatest sum over
  the last of them (`balances`), however few these are; writing the label starts it anew.
-/
import Mathlib.Algebra.Ring.Int.Defs
import Mathlib.Data.List.DropRight
import Mathlib.Order.Bounds.Basic
import TaintClient.Proofs.Panel.Label

namespace TaintClient.Panel

/-- What can be done to a page. -/
inductive Operation
  | start (m : Mode)
  | finish (m : Mode) (result : Except Failure Response)
  | abandon (m : Mode)
  | alert (message : String)
  | withLabel (m : Mode) (text : String)

namespace Operation

/-- The mode of an operation. An alert has none. -/
def mode? : Operation → Option Mode
  | start m | finish m _ | abandon m | withLabel m _ => some m
  | alert _ => none

/-- What an operation adds to the number of marks of its mode, or takes from it. -/
def gain : Operation → Int
  | start _ => 1
  | finish _ _ | abandon _ => -1
  | alert _ | withLabel _ _ => 0

/-- The text that an operation writes on the label of its mode. -/
def text? : Operation → Option String
  | withLabel _ text => some text
  | _ => none

end Operation

/-- The page after an operation. -/
def perform (p : Panel) : Operation → Panel
  | .start m => p.start m
  | .finish m result => (p.finish m result).2.1
  | .abandon m => p.abandon m
  | .alert message => p.alert message
  | .withLabel m text => p.withLabel m text

/-- The page after some operations. -/
def performAll (p : Panel) (ops : List Operation) : Panel := ops.foldl perform p

/-! ## What is read off the operations -/

/-- The operations of a mode. -/
def own (m : Mode) (ops : List Operation) : List Operation := ops.filter (·.mode? = some m)

/-- The operations behind the last one that writes a label. -/
def recent (ops : List Operation) : List Operation := ops.rtakeWhile (·.text?.isNone)

/-- The text that is written last, if any is, or the usual one. -/
def lastText (ops : List Operation) : String :=
  ((ops.filterMap Operation.text?).getLast?).getD defaultLabelText

/-- The sums that the last operations add up to, however many of them are taken. -/
def balances (ops : List Operation) : Set Int :=
  {n | ∃ last, last <:+ ops ∧ (last.map Operation.gain).sum = n}

variable {p : Panel} {ops : List Operation} {o : Operation} {m : Mode}

theorem own_concat (m : Mode) (ops : List Operation) (o : Operation) :
    own m (ops ++ [o]) = own m ops ++ if o.mode? = some m then [o] else [] := by
  rw [own, List.filter_append, ← own]
  by_cases h : o.mode? = some m
  · simp [h]
  · simp [h]

theorem recent_concat (ops : List Operation) (o : Operation) :
    recent (ops ++ [o]) = if o.text? = none then recent ops ++ [o] else [] := by
  rw [recent, List.rtakeWhile_concat, ← recent]
  simp only [Option.isNone_iff_eq_none]

theorem lastText_concat (ops : List Operation) (o : Operation) :
    lastText (ops ++ [o]) = o.text?.getD (lastText ops) := by
  unfold lastText
  rw [List.filterMap_append]
  cases h : o.text? with
  | none => simp [h]
  | some text => simp [h]

theorem isGreatest_balances_nil : IsGreatest (balances []) 0 := by
  refine ⟨⟨[], List.suffix_refl [], rfl⟩, ?_⟩
  rintro n ⟨last, hlast, rfl⟩
  rw [List.suffix_nil.mp hlast]
  rfl

/-- With one more operation at the end, the greatest sum is that of no operation at all, or the
greatest one before with the new operation behind it. -/
theorem isGreatest_balances_concat {n : Int} (h : IsGreatest (balances ops) n) (o : Operation) :
    IsGreatest (balances (ops ++ [o])) (max 0 (n + o.gain)) := by
  obtain ⟨⟨last, hlast, hsum⟩, hgreatest⟩ := h
  constructor
  · rcases le_total (n + o.gain) 0 with hn | hn
    · rw [max_eq_left hn]
      exact ⟨[], List.nil_suffix, rfl⟩
    · rw [max_eq_right hn]
      refine ⟨last ++ [o], List.suffix_append_self_iff.mpr hlast, ?_⟩
      simp [hsum]
  · rintro k ⟨last, hlast, rfl⟩
    rcases List.suffix_concat_iff.mp hlast with rfl | ⟨front, rfl, hfront⟩
    · exact le_max_left _ _
    · refine le_trans ?_ (le_max_right _ _)
      have := hgreatest ⟨front, hfront, rfl⟩
      simpa using this

/-! ## One operation -/

theorem variant_perform (p : Panel) (o : Operation) : (p.perform o).variant = p.variant := by
  cases o with
  | start m => exact variant_start p m
  | finish m result => exact variant_finish p m result
  | abandon m => exact variant_release p m
  | alert message => rfl
  | withLabel m text => exact variant_setLabel p m _

/-- An operation that is not of a mode leaves its label alone. -/
theorem label_perform_of_ne (p : Panel) (h : o.mode? ≠ some m) :
    (p.perform o).label m = p.label m := by
  have hne {n : Mode} (hn : some n ≠ some m) : m ≠ n := fun hm => hn (congrArg some hm.symm)
  cases o with
  | start n => exact label_start_of_ne p (hne h)
  | finish n result =>
    rw [perform, label_finish]
    exact label_release_of_ne p (hne h)
  | abandon n => exact label_release_of_ne p (hne h)
  | alert message => exact label_alert p message m
  | withLabel n text => exact label_setLabel_of_ne p _ (hne h)

/-- What an operation does to the label of its mode: the count goes up or down by what the
operation adds, but not below zero, and a text that is written starts it anew. -/
theorem label_perform_self {text : String} {n : Nat} (hp : p.variant = .report)
    (hl : p.label m = .heldBy text n) (h : o.mode? = some m) :
    (p.perform o).label m =
      match o.text? with
      | some new => .heldBy new 0
      | none => .heldBy text (n + o.gain).toNat := by
  cases o with
  | start k =>
    obtain rfl := Option.some.inj h
    exact (label_start_self hp k).trans (hl ▸ StatusLabel.hold_heldBy text n)
  | finish k result =>
    obtain rfl := Option.some.inj h
    rw [perform, label_finish, label_release_self hp, hl, StatusLabel.release_heldBy_pred]
    congr 1
    simp only [Operation.gain]
    omega
  | abandon k =>
    obtain rfl := Option.some.inj h
    rw [perform, abandon, label_release_self hp, hl, StatusLabel.release_heldBy_pred]
    congr 1
    simp only [Operation.gain]
    omega
  | alert message => cases h
  | withLabel k new =>
    obtain rfl := Option.some.inj h
    exact label_setLabel p k _

/-! ## All of them -/

theorem variant_performAll (p : Panel) (ops : List Operation) :
    (p.performAll ops).variant = p.variant := by
  induction ops generalizing p with
  | nil => rfl
  | cons o ops ih => exact (ih _).trans (variant_perform p o)

/-- The label of a mode is held as often as the greatest balance says; by induction on the
operations, the last one first. -/
theorem exists_label_performAll (ops : List Operation) (m : Mode) :
    ∃ n : Nat, IsGreatest (balances (recent (own m ops))) n ∧
      ((fresh .report).performAll ops).label m = .heldBy (lastText (own m ops)) n := by
  induction ops using List.reverseRecOn with
  | nil =>
    refine ⟨0, isGreatest_balances_nil, ?_⟩
    cases m with
    | solidity => rfl
    | bytecode => rfl
  | append_singleton ops o ih =>
    obtain ⟨n, hgreatest, hlabel⟩ := ih
    have hstep : (fresh .report).performAll (ops ++ [o]) =
        ((fresh .report).performAll ops).perform o := List.foldl_concat ..
    rw [hstep, own_concat]
    by_cases hmode : o.mode? = some m
    · rw [if_pos hmode, label_perform_self (variant_performAll _ ops) hlabel hmode,
        recent_concat, lastText_concat]
      cases htext : o.text? with
      | some text => exact ⟨0, isGreatest_balances_nil, rfl⟩
      | none =>
        refine ⟨(n + o.gain).toNat, ?_, rfl⟩
        rw [Int.toNat_eq_max, max_comm]
        exact isGreatest_balances_concat hgreatest o
    · rw [if_neg hmode, List.append_nil, label_perform_of_ne _ hmode]
      exact ⟨n, hgreatest, hlabel⟩

theorem own_own (m : Mode) (ops : List Operation) : own m (own m ops) = own m ops :=
  List.filter_eq_self.mpr fun _ ho => (List.mem_filter.mp ho).2

/-- **The count of a label.** After any operations on a fresh report page the count of a mode is the
greatest number of marks less marks given back over the last operations of the mode, none of them
included, since its label was last written. The label reads the text of a submission under way if
that is more than none, else the text that was last written. Operations of the other mode and alerts
do not matter. -/
theorem inFlight_isGreatest (ops : List Operation) (m : Mode) :
    let label := ((fresh .report).performAll ops).label m
    IsGreatest {n : Int | ∃ last, last <:+ recent (own m ops) ∧
      (last.map Operation.gain).sum = n} label.inFlight ∧
    label.current = (if 0 < label.inFlight then Report.analyzingText else lastText (own m ops)) ∧
    label = ((fresh .report).performAll (own m ops)).label m := by
  intro label
  obtain ⟨n, hgreatest, hlabel⟩ := exists_label_performAll ops m
  obtain ⟨n', hgreatest', hlabel'⟩ := exists_label_performAll (own m ops) m
  rw [own_own] at hgreatest' hlabel'
  obtain rfl : n = n' := Int.ofNat_inj.mp (hgreatest.unique hgreatest')
  have heq : label = .heldBy (lastText (own m ops)) n := hlabel
  refine ⟨?_, ?_, hlabel.trans hlabel'.symm⟩
  · rw [heq]
    exact hgreatest
  · rw [heq, StatusLabel.heldBy]
    cases n with
    | zero => rfl
    | succ n => rfl

end TaintClient.Panel

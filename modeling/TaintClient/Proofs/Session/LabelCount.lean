/-
  Label accounting. Who holds the label of a mode is a call of that mode that marked the page and
  did not yet read its form, or a submission of that mode that is not at its end. A section takes
  a mark, or gives one back, or leaves the labels alone; the number of holders moves with it. So on
  a report page each label counts its holders in every state of every interleaving, and no mark is
  given back that is not held.
-/
import Mathlib.Data.List.Basic
import TaintClient.Proofs.Panel.Label
import TaintClient.Proofs.Session.Waiting

namespace TaintClient

/-- Changing one element of a list moves the count by that element only. -/
theorem countP_modify_add {α : Type} (p : α → Bool) (f : α → α) {l : List α} {i : Nat} {a : α}
    (h : l[i]? = some a) :
    (l.modify i f).countP p + (if p a then 1 else 0) =
      l.countP p + if p (f a) then 1 else 0 := by
  induction l generalizing i with
  | nil => cases h
  | cons b l ih =>
    cases i with
    | zero =>
      obtain rfl := Option.some_inj.mp h
      rw [List.modify_zero_cons, List.countP_cons, List.countP_cons]
      omega
    | succ i =>
      have hi := ih (i := i) h
      rw [List.modify_succ_cons, List.countP_cons, List.countP_cons]
      omega

/-! ## Submissions that are not at their end -/

/-- Whether a submission of a mode is not at its end. -/
def Submission.holds (m : Mode) (sub : Submission) : Bool :=
  decide (sub.request.mode = m) && !sub.state.isTerminal

namespace Session

variable {s t : Session} {id : Nat} {m n : Mode} {sub : Submission} {st : SubmissionState}

/-- How many submissions of a mode are not at their end. -/
def active (s : Session) (m : Mode) : Nat := s.submissions.countP (·.holds m)

theorem active_enrol (s : Session) (r : Request) (m : Mode) :
    (s.enrol r).1.active m = s.active m + if r.mode = m then 1 else 0 := by
  unfold active enrol
  rw [List.countP_append, List.countP_singleton]
  simp [Submission.holds, SubmissionState.isTerminal]

theorem active_replace (s : Session) (id : Nat) (m : Mode) :
    (s.replace id).1.active m = s.active m := by
  unfold active
  rw [submissions_replace]

/-- A change that makes no submission a holder, and none that was one idle. -/
theorem active_modify {f : Submission → Submission}
    (hf : ∀ sub, s.submissions[id]? = some sub → (f sub).holds m = sub.holds m) :
    (s.modify id f).active m = s.active m := by
  unfold active modify
  cases hsub : s.submissions[id]? with
  | none => rw [List.modify_eq_self (List.getElem?_eq_none_iff.mp hsub)]
  | some sub =>
    have hc := countP_modify_add (·.holds m) f hsub
    rw [hf sub hsub] at hc
    exact Nat.add_right_cancel hc

theorem active_clear (s : Session) (previous : Option Nat) (m : Mode) :
    (s.clear previous).active m = s.active m := by
  cases previous with
  | none => rfl
  | some p => exact active_modify fun _ _ => rfl

/-- A launch moves a submission that was enrolled already. -/
theorem active_launch (h : s.state? id = some .idle) (n m : Mode) :
    (s.launch id n).active m = s.active m := by
  refine active_modify (f := ({ · with state := .submitted })) fun sub hsub => ?_
  unfold state? at h
  rw [hsub] at h
  have hs : sub.state = .idle := Option.some_inj.mp h
  simp only [Submission.holds, hs]
  rfl

/-- A submission that ends is one holder less of its mode. -/
theorem Ends.active_add (h : s.Ends id sub.request.mode st t)
    (hsub : s.submissions[id]? = some sub) (hs : sub.state = .submitted)
    (hst : st.isTerminal = true) (m : Mode) :
    t.active m + (if sub.request.mode = m then 1 else 0) = s.active m := by
  have hc := countP_modify_add (·.holds m) ({ · with state := st }) hsub
  have hold : sub.holds m = decide (sub.request.mode = m) := by
    simp [Submission.holds, hs, SubmissionState.isTerminal]
  have hnew : Submission.holds m { sub with state := st } = false := by
    simp [Submission.holds, hst]
  simp only [hold, hnew, decide_eq_true_eq] at hc
  unfold active
  rw [h.submissions]
  exact hc

end Session

/-! ## Holders of a label -/

/-- Whether a call of a mode marked the page and did not read its form yet. -/
def Stage.holds (m : Mode) : Stage → Bool
  | .marked c => decide (c.mode = m)
  | _ => false

@[simp] theorem Stage.holds_marked (c : Call) (m : Mode) :
    (marked c).holds m = decide (c.mode = m) := rfl

@[simp] theorem Stage.holds_returned (m : Mode) : returned.holds m = false := rfl

@[simp] theorem Stage.holds_replaced (id : Nat) (n : Mode) (previous : Option Nat) (m : Mode) :
    (replaced id n previous).holds m = false := rfl

@[simp] theorem Stage.holds_cleared (id : Nat) (n m : Mode) :
    (cleared id n).holds m = false := rfl

namespace Interleaving

variable {w w' : Interleaving} {sec : Section} {endpoint : Url} {policy : ResubmitPolicy}
  {panel : Panel} {sections : List Section} {m : Mode}

/-- How many calls and submissions hold the label of a mode. -/
def holders (w : Interleaving) (m : Mode) : Nat := w.calls.countP (·.holds m) + w.session.active m

/-- The mode that a section marks the page for. -/
def taken : Section → Option Mode
  | .mark c => some c.mode
  | _ => none

/-- The mode whose mark a section gives back: that of a call whose form lacks an element, or that
of the submission whose task runs its last section. -/
def released (w : Interleaving) : Section → Option Mode
  | .proceed i =>
    match w.calls[i]? with
    | some (.marked c) =>
      match c.request with
      | .error _ => some c.mode
      | .ok _ => none
    | _ => none
  | .task (.finish id) => w.session.submissions[id]?.map (·.request.mode)
  | _ => none

/-- A page with the labels that a section leaves. -/
def relabelled (w : Interleaving) (sec : Section) : Panel :=
  match taken sec, w.released sec with
  | some m, _ => w.session.panel.start m
  | none, some m => w.session.panel.release m
  | none, none => w.session.panel

/-- A section writes the label of the mode whose mark it takes or gives back, and the holders of
that mode change by one. -/
structure Relabels (w : Interleaving) (sec : Section) (w' : Interleaving) : Prop where
  variant : w'.session.panel.variant = w.session.panel.variant
  label : ∀ m, w'.session.panel.label m = (w.relabelled sec).label m
  holders : ∀ m, w'.holders m + (if w.released sec = some m then 1 else 0) =
    w.holders m + if taken sec = some m then 1 else 0

/-- A section that neither takes a mark nor gives one back. -/
theorem relabels_of_none (htaken : taken sec = none) (hreleased : w.released sec = none)
    (hv : w'.session.panel.variant = w.session.panel.variant)
    (hl : ∀ m, w'.session.panel.label m = w.session.panel.label m)
    (hh : ∀ m, w'.holders m = w.holders m) : w.Relabels sec w' := by
  refine ⟨hv, fun m => ?_, fun m => ?_⟩
  · simp only [relabelled, htaken, hreleased]
    exact hl m
  · rw [htaken, hreleased]
    exact hh m

/-- The holders after a call went on to another stage and left another session behind. -/
theorem holders_set {i : Nat} {g : Stage} (hg : w.calls[i]? = some g) (g' : Stage) (s : Session)
    (m : Mode) :
    holders { w.setSession s with calls := w.calls.set i g' } m + w.session.active m +
        (if g.holds m then 1 else 0) =
      w.holders m + s.active m + if g'.holds m then 1 else 0 := by
  have hc := countP_modify_add (·.holds m) (fun _ => g') hg
  rw [← List.set_eq_modify] at hc
  show (w.calls.set i g').countP _ + s.active m + _ + _ = w.calls.countP _ + _ + _ + _
  omega

theorem relabels_proceed (hw : w.Waiting) {i : Nat} {g : Stage} (hg : w.calls[i]? = some g)
    (hret : g ≠ .returned) :
    w.Relabels (.proceed i) { w.setSession (w.session.proceed g).1 with
      calls := w.calls.set i (w.session.proceed g).2 } := by
  have hset := holders_set hg (w.session.proceed g).2 (w.session.proceed g).1
  cases g with
  | returned => exact absurd rfl hret
  | marked c =>
    cases hr : c.request with
    | error e =>
      -- the form lacks an element: the mark that the call held is given back
      have hrel : w.released (.proceed i) = some c.mode := by simp only [released, hg, hr]
      simp only [Session.proceed, hr] at hset ⊢
      refine ⟨Panel.variant_release _ _, fun m => ?_, fun m => ?_⟩
      · simp only [relabelled, taken, hrel]
        rfl
      · have hm := hset m
        have ha : (w.session.unmark c.mode).active m = w.session.active m := rfl
        simp only [Stage.holds_marked, Stage.holds_returned, decide_eq_true_eq] at hm
        simp only [hrel, taken, Option.some_inj]
        simp only [Bool.false_eq_true, reduceCtorEq, if_false] at hm ⊢
        omega
    | ok r =>
      -- the mark passes from the call to the submission that it enrols
      have hrel : w.released (.proceed i) = none := by simp only [released, hg, hr]
      simp only [Session.proceed, hr] at hset ⊢
      refine relabels_of_none rfl hrel ?_ (fun m => ?_) fun m => ?_
      · exact congrArg _ (Session.panel_replace _ _)
      · exact congrArg (·.label m) (Session.panel_replace _ _)
      · have hm := hset m
        rw [Session.active_replace, Session.active_enrol] at hm
        simp only [Stage.holds_marked, Stage.holds_replaced, decide_eq_true_eq,
          ← Call.mode_of_request hr, Bool.false_eq_true, if_false] at hm
        omega
  | replaced id n previous =>
    have hrel : w.released (.proceed i) = none := by simp only [released, hg]
    refine relabels_of_none rfl hrel ?_ (fun m => ?_) fun m => ?_
    · exact congrArg _ (Session.panel_clear _ _)
    · exact congrArg (·.label m) (Session.panel_clear _ _)
    · have hm := hset m
      simp only [Session.proceed, Session.active_clear, Stage.holds_replaced,
        Stage.holds_cleared, Bool.false_eq_true, if_false] at hm ⊢
      omega
  | cleared id n =>
    have hrel : w.released (.proceed i) = none := by simp only [released, hg]
    have hidle : w.session.state? id = some .idle := by
      apply hw.idle i
      simp only [awaited, hg]
      rfl
    refine relabels_of_none rfl hrel rfl (fun _ => rfl) fun m => ?_
    have hm := hset m
    simp only [Session.proceed, Session.active_launch hidle, Stage.holds_cleared,
      Stage.holds_returned, Bool.false_eq_true, if_false] at hm ⊢
    omega

theorem relabels_step (hs : w.traffic.Sound) (hw : w.Waiting) (h : w.step sec = some w') :
    w.Relabels sec w' := by
  cases sec with
  | mark c =>
    cases h
    refine ⟨Panel.variant_start _ _, fun _ => rfl, fun m => ?_⟩
    simp only [holders, released, taken, List.countP_append, List.countP_singleton, Stage.holds,
      decide_eq_true_eq, Option.some_inj, reduceCtorEq, if_false]
    show _ + w.session.active m + _ = _
    omega
  | proceed i =>
    obtain ⟨g, hg, hret, rfl⟩ := step_proceed h
    exact relabels_proceed hw hg hret
  | task k =>
    obtain ⟨hadv, hcalls⟩ := step_task h
    obtain ⟨hk, hsame⟩ | ⟨id, sub, st, rfl, hf⟩ := Traffic.advance_cases hs hadv
    · have hsame : w'.session = w.session := hsame
      have hrel : w.released (.task k) = none := by
        cases k with
        | finish id => exact absurd rfl (hk id)
        | _ => rfl
      refine relabels_of_none rfl hrel ?_ (fun m => ?_) fun m => ?_
      · rw [hsame]
      · rw [hsame]
      · unfold holders
        rw [hsame, hcalls]
    · have hrel : w.released (.task (.finish id)) = some sub.request.mode :=
        congrArg (Option.map _) hf.submission
      refine ⟨hf.ends.variant, fun m => ?_, fun m => ?_⟩
      · simp only [relabelled, taken, hrel]
        exact hf.ends.label m
      · have ha := hf.ends.active_add hf.submission hf.submitted hf.terminal m
        unfold holders
        rw [hrel, hcalls]
        simp only [Option.some_inj, taken, reduceCtorEq, if_false]
        show _ + Session.active w'.traffic.session m + _ = _ + w.traffic.session.active m + _
        omega
  | alert message =>
    cases h
    exact relabels_of_none rfl rfl rfl (fun m => Panel.label_alert _ _ m) fun _ => rfl

/-! ## What a run keeps -/

theorem variant_relabelled (w : Interleaving) (sec : Section) :
    (w.relabelled sec).variant = w.session.panel.variant := by
  unfold relabelled
  split
  · exact Panel.variant_start _ _
  · exact Panel.variant_release _ _
  · rfl

/-- A section leaves the label of every other mode as it was. -/
theorem label_relabelled_of_ne (htaken : taken sec ≠ some m) (hreleased : w.released sec ≠ some m) :
    (w.relabelled sec).label m = w.session.panel.label m := by
  unfold relabelled
  split
  · rename_i n _ hn
    exact Panel.label_start_of_ne _ fun he => htaken (he ▸ hn)
  · rename_i n _ hn
    exact Panel.label_release_of_ne _ fun he => hreleased (he ▸ hn)
  · rfl

/-- The tasks are sound, no call waits for a submission under way, and the labels of the page that
the session began with count their holders. -/
structure Accounted (panel : Panel) (w : Interleaving) : Prop where
  sound : w.traffic.Sound
  waiting : w.Waiting
  variant : w.session.panel.variant = panel.variant
  labels : w.session.panel.LabelsHeld panel.labelText w.holders

theorem accounted_start (h : panel.AtRest) : (start endpoint policy panel).Accounted panel :=
  ⟨Traffic.sound_start endpoint policy panel, waiting_start, rfl, Panel.labelsHeld_of_atRest h⟩

theorem labelsHeld_relabels {text : Mode → String} (h : w.session.panel.LabelsHeld text w.holders)
    (hr : w.Relabels sec w') : w'.session.panel.LabelsHeld text w'.holders := by
  have hheld : (w.relabelled sec).LabelsHeld text w'.holders := by
    have hh := hr.holders
    unfold relabelled
    cases htaken : taken sec with
    | some m =>
      have hreleased : w.released sec = none := by cases sec <;> first | rfl | cases htaken
      rw [htaken, hreleased] at hh
      refine Panel.labelsHeld_start h ?_ fun n hn => ?_
      · simpa using hh m
      · simpa [Ne.symm hn] using hh n
    | none =>
      rw [htaken] at hh
      cases hreleased : w.released sec with
      | some m =>
        rw [hreleased] at hh
        refine Panel.labelsHeld_release h ?_ fun n hn => ?_
        · simpa using hh m
        · simpa [Ne.symm hn] using hh n
      | none =>
        rw [hreleased] at hh
        rwa [show w'.holders = w.holders from funext hh]
  exact hheld.congr (hr.variant.trans (variant_relabelled w sec).symm) hr.label

theorem accounted_step (h : w.Accounted panel) (hw : w.step sec = some w') :
    w'.Accounted panel :=
  have hr : w.Relabels sec w' := relabels_step h.sound h.waiting hw
  ⟨sound_step h.sound hw, waiting_step h.sound h.waiting hw, hr.variant.trans h.variant,
    labelsHeld_relabels h.labels hr⟩

theorem accounted_of_run (hp : panel.AtRest)
    (h : (start endpoint policy panel).run sections = some w) : w.Accounted panel :=
  Steps.invariant_of_run (fun _ _ _ => accounted_step) (accounted_start hp) h

/-- Where nothing is under way, nothing is held. -/
theorem holders_eq_zero (hcalls : ∀ c, .marked c ∉ w.calls)
    (hsubs : ∀ sub ∈ w.session.submissions, sub.state.isTerminal = true) (m : Mode) :
    w.holders m = 0 := by
  have hc : w.calls.countP (·.holds m) = 0 := by
    refine List.countP_eq_zero.mpr fun g hg => ?_
    cases g with
    | marked c => exact absurd hg (hcalls c)
    | _ => exact Bool.false_ne_true
  have ha : w.session.active m = 0 := by
    refine List.countP_eq_zero.mpr fun sub hsub => ?_
    simp [Submission.holds, hsubs sub hsub]
  rw [holders, hc, ha]

theorem Accounted.label_of_report (h : w.Accounted panel) (hp : panel.variant = .report)
    (m : Mode) : w.session.panel.label m = .heldBy (panel.labelText m) (w.holders m) := by
  have hl := h.labels m
  rw [h.variant, hp] at hl
  exact hl

theorem Accounted.label_of_plain (h : w.Accounted panel) (hp : panel.variant = .plain)
    (m : Mode) : w.session.panel.label m = .heldBy (panel.labelText m) 0 := by
  have hl := h.labels m
  rw [h.variant, hp] at hl
  exact hl

/-- Where nothing is under way, every label is as it was at first. -/
theorem Accounted.label_eq (h : w.Accounted panel) (hcalls : ∀ c, .marked c ∉ w.calls)
    (hsubs : ∀ sub ∈ w.session.submissions, sub.state.isTerminal = true) (m : Mode) :
    w.session.panel.label m = .ofText (panel.labelText m) := by
  rw [h.labels m, holders_eq_zero hcalls hsubs]
  cases w.session.panel.variant <;> rfl

/-- The same of a session whose calls are not interrupted. -/
theorem label_of_finished {events : List Event} {t : Traffic} (hp : panel.AtRest)
    (h : (Traffic.start endpoint policy panel).run events = some t)
    (hend : ∀ sub ∈ t.session.submissions, sub.state.isTerminal = true) (m : Mode) :
    t.session.panel.label m = .ofText (panel.labelText m) := by
  have hq : (start endpoint policy panel).Quiet := fun g hg => by cases hg
  obtain ⟨sections, calls, hs, hret⟩ := exists_sections_of_run hq h
  refine (accounted_of_run hp hs).label_eq (fun c hc => ?_) hend m
  cases hret _ hc

/-! ## The law of the labels -/

/-- **Label accounting.** On a report page that began without submissions, under either policy and
in every interleaving, each label counts the calls and submissions of its mode that are under way;
it reads `Analyzing` while there are any, and its own text otherwise. No label of a plain page
changes. A section that gives a mark back finds it counted, and a section writes no label but that
of its mode. Once everything is at its end, every label reads its own text. -/
theorem label_counts_holders {variant : PageVariant} {labels : List (Mode × String)}
    (h : (start endpoint policy ((Panel.fresh variant).withLabels labels)).run sections = some w) :
    (variant = .report → ∀ m,
      (w.session.panel.label m).inFlight = w.holders m ∧
      w.session.panel.labelText m =
        if 0 < w.holders m then Report.analyzingText
        else ((Panel.fresh variant).withLabels labels).labelText m) ∧
    (variant = .plain → ∀ m,
      w.session.panel.labelText m = ((Panel.fresh variant).withLabels labels).labelText m) ∧
    (∀ sec w', w.step sec = some w' → ∀ m,
      (variant = .report → w.released sec = some m →
        (w.session.panel.label m).inFlight = (w'.session.panel.label m).inFlight + 1) ∧
      (taken sec ≠ some m → w.released sec ≠ some m →
        w'.session.panel.label m = w.session.panel.label m)) ∧
    ((∀ c, .marked c ∉ w.calls) →
      (∀ sub ∈ w.session.submissions, sub.state.isTerminal = true) →
      ∀ m, w.session.panel.labelText m =
        ((Panel.fresh variant).withLabels labels).labelText m) := by
  have hacc := accounted_of_run (Panel.atRest_withLabels (Panel.atRest_fresh variant) labels) h
  have hv : ((Panel.fresh variant).withLabels labels).variant = variant :=
    Panel.variant_withLabels _ labels
  refine ⟨fun hr m => ?_, fun hp m => ?_, fun sec w' hstep m => ⟨fun hr hrel => ?_, ?_⟩,
    fun hcalls hsubs m => ?_⟩
  · unfold Panel.labelText
    rw [hacc.label_of_report (hv.trans hr)]
    refine ⟨rfl, ?_⟩
    by_cases hz : w.holders m = 0
    · rw [hz]
      rfl
    · rw [if_pos (Nat.pos_of_ne_zero hz)]
      exact if_neg hz
  · rw [Panel.labelText, hacc.label_of_plain (hv.trans hp)]
    rfl
  · rw [hacc.label_of_report (hv.trans hr),
      (accounted_step hacc hstep).label_of_report (hv.trans hr)]
    have hh := (relabels_step hacc.sound hacc.waiting hstep).holders m
    have htaken : taken sec = none := by
      cases sec <;> first | rfl | cases hrel
    rw [hrel, htaken, if_pos rfl, if_neg (by simp)] at hh
    exact hh.symm
  · intro htaken hreleased
    rw [(relabels_step hacc.sound hacc.waiting hstep).label m]
    exact label_relabelled_of_ne htaken hreleased
  · rw [Panel.labelText, hacc.label_eq hcalls hsubs m]
    rfl

/-- A submission that is launched, and a form without elements that is about to be read. -/
def heldTwice : List Section :=
  [.mark (.submit ⟨.solidity, "a", "", none⟩), .proceed 0, .proceed 0,
    .mark (.submitForm .solidity .empty), .proceed 0]

/-- Both hold the label of their mode; once the form is read, one still does. -/
theorem labelText_heldTwice :
    ∃ w w', (start { scheme := "http", path := .rooted [] } .cancelPrevious
        ((Panel.fresh .report).withLabels [(.solidity, "Check")])).run heldTwice = some w ∧
      w.step (.proceed 1) = some w' ∧ w.session.panel.labelText .solidity = "Analyzing" ∧
      (w.session.panel.label .solidity).inFlight = 2 ∧
      (w'.session.panel.label .solidity).inFlight + 1 = 2 ∧
      w'.session.panel.label .bytecode = w.session.panel.label .bytecode := by
  obtain ⟨w, w', h, hstep, hheld, hrel⟩ :
      ∃ w w', (start { scheme := "http", path := .rooted [] } .cancelPrevious
          ((Panel.fresh .report).withLabels [(.solidity, "Check")])).run heldTwice = some w ∧
        w.step (.proceed 1) = some w' ∧ w.holders .solidity = 2 ∧
        w.released (.proceed 1) = some .solidity := ⟨_, _, rfl, rfl, rfl, rfl⟩
  obtain ⟨hreport, _, hsection, _⟩ := label_counts_holders h
  obtain ⟨hcount, htext⟩ := hreport rfl .solidity
  have hgiven := (hsection _ _ hstep .solidity).1 rfl hrel
  have hother := (hsection _ _ hstep .bytecode).2 (by simp [taken]) (by simp [hrel])
  rw [hheld] at hcount htext
  exact ⟨w, w', h, hstep, htext, hcount, hgiven.symm.trans hcount, hother⟩

end Interleaving

end TaintClient

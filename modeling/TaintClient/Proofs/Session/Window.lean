/-
  One caller on a plain page, in a session that cancels. A new submission marks the page first and
  cancels the one before it two sections later. In between the page is marked for the new one, and
  the task of the one before may still run its last section and write to the page. This is the only
  way in which an older submission is applied, and it does happen; unless it does, the region stays
  as the newest submission marked it.
-/
import TaintClient.Proofs.Session.LabelCount

namespace TaintClient

/-! ## Stages of a call -/

namespace Stage

def isReturned : Stage → Bool
  | .returned => true
  | _ => false

/-- Whether the page is marked for a submission that is still to be enrolled. -/
def opens : Stage → Bool
  | .marked c => c.dispatches
  | _ => false

/-- Whether a submission began that is still to cancel the one before. -/
def displaces : Stage → Bool
  | .marked c => c.dispatches
  | .replaced _ _ _ => true
  | _ => false

theorem isReturned_iff {g : Stage} : g.isReturned = true ↔ g = .returned := by
  cases g <;> simp [isReturned]

end Stage

namespace Session

variable {s t : Session} {g : Stage} {id : Nat} {m : Mode} {st : SubmissionState}

/-- The session while one call is at a stage, and no other is under way. -/
def Stands (s : Session) : Stage → Prop
  | .replaced _ _ previous => s.Displacing previous
  | _ => s.InOrder

theorem Stands.of_eq (h : s.Stands g) (hi : t.inFlight = s.inFlight)
    (hs : t.submissions = s.submissions) : t.Stands g := by
  have hc : ∀ id, t.isCancelled id = s.isCancelled id := fun id => by
    unfold isCancelled
    rw [hs]
  cases g with
  | replaced id m previous =>
    exact ⟨fun id => by rw [hi, hs]; exact h.inFlight id, fun id => by rw [hs]; exact h.previous id,
      fun id => by rw [hc, hs]; exact h.cancelled id⟩
  | _ =>
    exact ⟨fun id => by rw [hi, hs]; exact h.inFlight id,
      fun id => by rw [hc, hs]; exact h.cancelled id⟩

theorem Stands.ends (h : s.Stands g) (he : s.Ends id m st t) : t.Stands g := by
  cases g with
  | replaced _ _ _ => exact Displacing.ends h he
  | _ => exact InOrder.ends h he

/-- A call goes from a session in order to one that displaces, and back. -/
theorem stands_proceed (hp : s.policy = .cancelPrevious) (h : s.Stands g) :
    (s.proceed g).1.Stands (s.proceed g).2 := by
  cases g with
  | returned => exact h
  | marked c =>
    cases hr : c.request with
    | error e =>
      simp only [proceed, hr]
      exact Stands.of_eq (g := .returned) h rfl rfl
    | ok r =>
      simp only [proceed, hr]
      exact displacing_replace hp h r
  | replaced id m previous => exact inOrder_clear h
  | cleared id m => exact inOrder_launch h id m

end Session

namespace Interleaving

variable {u w w' : Interleaving} {sec : Section} {endpoint : Url} {panel : Panel}
  {sections : List Section} {id : Nat}

/-! ## One caller -/

/-- A section while one caller makes its calls one after the other. -/
def stepAlone (w : Interleaving) (sec : Section) : Option Interleaving :=
  match sec with
  | .mark c => if w.calls.all Stage.isReturned then w.step (.mark c) else none
  | _ => w.step sec

/-- The state after a list of sections of one caller and of the tasks. -/
def runAlone (w : Interleaving) (sections : List Section) : Option Interleaving :=
  Steps.run stepAlone w sections

/-- The stage of the newest call. -/
def latest (w : Interleaving) : Stage := w.calls.getLast?.getD .returned

/-- How many submissions began. -/
def begun (w : Interleaving) : Nat :=
  w.session.submissions.length + if w.latest.opens then 1 else 0

theorem step_of_stepAlone (h : w.stepAlone sec = some w') : w.step sec = some w' := by
  unfold stepAlone at h
  split at h
  · split at h
    · exact h
    · cases h
  · exact h

theorem quiet_of_stepAlone {c : Call} (h : w.stepAlone (.mark c) = some w') : w.Quiet := by
  simp only [stepAlone] at h
  split at h
  · rename_i hret
    exact fun g hg => Stage.isReturned_iff.mp (List.all_eq_true.mp hret g hg)
  · cases h

theorem latest_of_quiet (h : w.Quiet) : w.latest = .returned := by
  unfold latest
  cases hg : w.calls.getLast? with
  | none => rfl
  | some g => exact h g (List.mem_of_getLast? hg)

/-- What holds while one caller submits on a plain page to a session that cancels. -/
structure Aligned (w : Interleaving) : Prop where
  sound : w.traffic.Sound
  waiting : w.Waiting
  policy : w.session.policy = .cancelPrevious
  plain : w.session.panel.variant = .plain
  /-- Only the newest call is under way. -/
  alone : ∀ i g, w.calls[i]? = some g → g ≠ .returned → i + 1 = w.calls.length
  stands : w.session.Stands w.latest

theorem aligned_start (hp : panel.variant = .plain) :
    (start endpoint .cancelPrevious panel).Aligned where
  sound := Traffic.sound_start endpoint _ panel
  waiting := waiting_start
  policy := rfl
  plain := hp
  alone := by
    intro i g hg
    cases hg
  stands := Session.inOrder_fresh endpoint _ panel

/-- The order of cancellation after a task step. -/
theorem stands_task {k : TaskStep} {g : Stage} (hs : w.traffic.Sound)
    (h : w.traffic.advance k = some w'.traffic) (hg : w.session.Stands g) :
    w'.session.Stands g := by
  obtain ⟨_, hsame⟩ | ⟨_, _, _, rfl, hf⟩ := Traffic.advance_cases hs h
  · unfold session
    rw [hsame]
    exact hg
  · exact hg.ends hf.ends

/-- A call begins only when no other is under way, and goes on only if it is the newest. -/
theorem alone_step (hw : w.Aligned) (h : w.stepAlone sec = some w') (j : Nat) (g' : Stage) :
    w'.calls[j]? = some g' → g' ≠ .returned → j + 1 = w'.calls.length := by
  have hstep : w.step sec = some w' := step_of_stepAlone h
  cases sec with
  | mark c =>
    have hq := quiet_of_stepAlone h
    cases hstep
    intro hg hret
    rw [List.getElem?_append] at hg
    split at hg
    · exact absurd (hq g' (List.mem_of_getElem? hg)) hret
    · rename_i hlt
      rw [List.getElem?_singleton] at hg
      split at hg
      · show j + 1 = (w.calls ++ [Stage.marked c]).length
        rw [List.length_append, List.length_singleton]
        omega
      · cases hg
  | proceed i =>
    obtain ⟨g, hg, hret, rfl⟩ := step_proceed hstep
    intro hg' hret'
    show j + 1 = (w.calls.set i _).length
    rw [List.length_set]
    by_cases hij : i = j
    · rw [← hij]
      exact hw.alone i g hg hret
    · have hold : w.calls[j]? = some g' := (List.getElem?_set_ne hij).symm.trans hg'
      exact hw.alone j g' hold hret'
  | task k =>
    obtain ⟨_, hcalls⟩ := step_task hstep
    rw [hcalls]
    exact hw.alone j g'
  | alert message =>
    cases hstep
    exact hw.alone j g'

theorem latest_of_proceed (hw : w.Aligned) {i : Nat} {g : Stage} (hg : w.calls[i]? = some g)
    (hret : g ≠ .returned) : w.latest = g := by
  unfold latest
  rw [List.getLast?_eq_getElem?, ← hw.alone i g hg hret, Nat.add_sub_cancel, hg]
  rfl

/-- The order of cancellation follows the stage of the newest call. -/
theorem stands_step (hw : w.Aligned) (h : w.stepAlone sec = some w') :
    w'.session.Stands w'.latest := by
  have hstep : w.step sec = some w' := step_of_stepAlone h
  cases sec with
  | mark c =>
    have hq := quiet_of_stepAlone h
    have hord := hw.stands
    rw [latest_of_quiet hq] at hord
    cases hstep
    have hlatest : latest { w.setSession (w.session.mark c.mode) with
        calls := w.calls ++ [.marked c] } = .marked c := by
      unfold latest
      rw [List.getLast?_concat]
      rfl
    rw [hlatest]
    exact Session.Stands.of_eq (g := .returned) hord rfl rfl
  | proceed i =>
    obtain ⟨g, hg, hret, rfl⟩ := step_proceed hstep
    have hlen := hw.alone i g hg hret
    have hlatest' : latest { w.setSession (w.session.proceed g).1 with
        calls := w.calls.set i (w.session.proceed g).2 } = (w.session.proceed g).2 := by
      unfold latest
      rw [List.getLast?_eq_getElem?, List.length_set, ← hlen, Nat.add_sub_cancel,
        List.getElem?_set_self (by omega)]
      rfl
    rw [hlatest']
    exact Session.stands_proceed hw.policy (latest_of_proceed hw hg hret ▸ hw.stands)
  | task k =>
    obtain ⟨hadv, hcalls⟩ := step_task hstep
    have hlatest : w'.latest = w.latest := congrArg (·.getLast?.getD .returned) hcalls
    rw [hlatest]
    exact stands_task hw.sound hadv hw.stands
  | alert message =>
    cases hstep
    exact Session.Stands.of_eq hw.stands rfl rfl

theorem aligned_step (hw : w.Aligned) (h : w.stepAlone sec = some w') : w'.Aligned :=
  have hstep : w.step sec = some w' := step_of_stepAlone h
  have hrel : w.Relabels sec w' := relabels_step hw.sound hw.waiting hstep
  ⟨sound_step hw.sound hstep, waiting_step hw.sound hw.waiting hstep,
    (policy_step hw.sound hstep).trans hw.policy, hrel.variant.trans hw.plain,
    alone_step hw h, stands_step hw h⟩

theorem aligned_of_run (hp : panel.variant = .plain)
    (h : (start endpoint .cancelPrevious panel).runAlone sections = some w) : w.Aligned :=
  Steps.invariant_of_run (fun _ _ _ => aligned_step) (aligned_start hp) h

/-! ## The window -/

/-- Of the submissions before the newest, only the last one may be uncancelled, and only until the
call of the newest cancels it. -/
theorem isCancelled_iff_not_displaced (hw : w.Aligned) (hid : id + 1 < w.begun) :
    w.session.isCancelled id = true ↔ ¬ (id + 2 = w.begun ∧ w.latest.displaces = true) := by
  have hs := hw.stands
  unfold begun at hid ⊢
  cases hl : w.latest with
  | replaced n m previous =>
    rw [hl] at hs hid
    rw [Session.Displacing.cancelled hs]
    simp only [Stage.opens, Stage.displaces] at hid ⊢
    simp only [Bool.false_eq_true, if_false, and_true] at hid ⊢
    omega
  | marked c =>
    rw [hl] at hs hid
    rw [Session.InOrder.cancelled hs]
    simp only [Stage.opens, Stage.displaces] at hid ⊢
    by_cases hc : c.dispatches = true
    · simp only [hc, if_true, and_true] at hid ⊢
      omega
    · simp only [hc, Bool.false_eq_true, if_false, and_false, not_false_eq_true, iff_true] at hid ⊢
      exact hid
  | _ =>
    rw [hl] at hs hid
    rw [Session.InOrder.cancelled hs]
    simp only [Stage.opens, Stage.displaces, Bool.false_eq_true, if_false, and_false,
      not_false_eq_true, iff_true] at hid ⊢
    exact hid

/-- The last section of a task either applies what came of its exchange or, on a plain page, leaves
the page alone. -/
theorem finish_cases (hw : w.Aligned) (h : w.step (.task (.finish id)) = some w') :
    (w.session.isCancelled id = true ∧ w'.session.state? id = some .superseded ∧
      w'.session.panel = w.session.panel) ∨
    (w.session.isCancelled id = false ∧ ∃ m result, (w.traffic.tasks id).answer = some result ∧
      w'.session.state? id = some (.ofResult result) ∧
      w'.session.panel = (w.session.panel.finish m result).2.1) := by
  obtain ⟨hadv, _⟩ := step_task h
  have hst : w.session.state? id = some .submitted := Traffic.state?_of_advance hadv
  obtain ⟨sub, hsub, _, _, ⟨hc, he⟩ | ⟨hc, result, hres, he⟩⟩ :=
    Traffic.advance_finish hw.sound hadv
  · have hends : w.session.Ends id sub.request.mode .superseded w'.session := by
      unfold session
      rw [he]
      exact Session.ends_supersede _ _ _
    refine Or.inl ⟨?_, ?_, ?_⟩
    · simpa [Session.isCancelled, session, hsub] using hc
    · rw [hends.state?_eq, if_pos rfl, hst, Option.map_some]
    · refine (congrArg Session.panel he).trans ?_
      show w.session.panel.release _ = _
      simp only [Panel.release, hw.plain]
  · have hends : w.session.Ends id sub.request.mode (.ofResult result) w'.session := by
      unfold session
      rw [he]
      exact Session.ends_apply _ _ _ _
    refine Or.inr ⟨?_, sub.request.mode, result, hres, ?_, congrArg Session.panel he⟩
    · simpa [Session.isCancelled, session, hsub] using hc
    · rw [hends.state?_eq, if_pos rfl, hst, Option.map_some]

/-! ## The region after a mark -/

/-- Since a page was marked, the region is the placeholder unless a submission was rendered, and
what was rendered before still is. -/
structure Since (u w : Interleaving) : Prop where
  rendered : ∀ id, u.session.state? id = some .rendered → w.session.state? id = some .rendered
  region : w.session.panel.region = (Report.placeholder, none) ↔
    ∀ id, w.session.state? id = some .rendered → u.session.state? id = some .rendered

theorem since_mark {c : Call} (hu : u.Aligned) (h : u.step (.mark c) = some w) : u.Since w := by
  cases h
  refine ⟨fun _ hid => hid, iff_of_true ?_ fun _ hid => hid⟩
  show (u.session.panel.start c.mode).region = _
  rw [Panel.region_start, hu.plain]

/-- What neither writes to the region nor ends a submission as rendered. -/
theorem Since.of_eq (h : u.Since w)
    (hs : ∀ id, w'.session.state? id = some .rendered ↔ w.session.state? id = some .rendered)
    (hr : w'.session.panel.region = w.session.panel.region) : u.Since w' := by
  refine ⟨fun id hid => (hs id).mpr (h.rendered id hid), ?_⟩
  rw [hr, h.region]
  exact forall_congr' fun id => imp_congr_left (hs id).symm

/-- A last section that renders a report. -/
theorem Since.of_rendered (h : u.Since w) (hbefore : w.session.state? id = some .submitted)
    (hs : ∀ j, j ≠ id →
      (w'.session.state? j = some .rendered ↔ w.session.state? j = some .rendered))
    (hid : w'.session.state? id = some .rendered)
    (hr : w'.session.panel.lastResponse ≠ none) : u.Since w' := by
  have hu : u.session.state? id ≠ some .rendered := by
    intro hu
    have hw := h.rendered id hu
    rw [hbefore] at hw
    cases hw
  refine ⟨fun j hj => ?_, iff_of_false (fun hn => hr (congrArg Prod.snd hn)) fun hall => ?_⟩
  · by_cases hji : j = id
    · rw [hji]
      exact hid
    · exact (hs j hji).mpr (h.rendered j hj)
  · exact hu (hall id hid)

theorem since_step (hw : w.Aligned) (h : u.Since w) (hstep : w.step sec = some w')
    (hmark : ∀ c, sec ≠ .mark c) : u.Since w' := by
  by_cases hfin : ∃ id, sec = .task (.finish id)
  · obtain ⟨id, rfl⟩ := hfin
    have hother : ∀ j, j ≠ id →
        (w'.session.state? j = some .rendered ↔ w.session.state? j = some .rendered) :=
      fun j hj => state?_step hw.sound hw.waiting hstep (fun he => hj (by cases he; rfl)) rfl
    have hbefore : w.session.state? id = some .submitted :=
      Traffic.state?_of_advance (step_task hstep).1
    have hunrendered : w'.session.state? id ≠ some .rendered →
        ∀ j, w'.session.state? j = some .rendered ↔ w.session.state? j = some .rendered := by
      intro hne j
      by_cases hj : j = id
      · rw [hj, hbefore]
        exact iff_of_false hne (by simp)
      · exact hother j hj
    obtain ⟨_, hst, hpanel⟩ | ⟨_, m, result, _, hst, hpanel⟩ := finish_cases hw hstep
    · exact h.of_eq (hunrendered (by simp [hst])) (by rw [hpanel])
    · cases result with
      | ok r =>
        refine h.of_rendered hbefore hother hst ?_
        rw [hpanel]
        exact Option.some_ne_none r
      | error f =>
        refine h.of_eq (hunrendered ?_) (by rw [hpanel, Panel.region_finish])
        rw [hst, SubmissionState.ofResult]
        split <;> simp
  · have hs : ∀ id, w'.session.state? id = some .rendered ↔
        w.session.state? id = some .rendered := fun id =>
      state?_step hw.sound hw.waiting hstep (fun he => hfin ⟨id, he⟩) rfl
    refine h.of_eq hs ?_
    cases sec with
    | mark c => exact absurd rfl (hmark c)
    | proceed i =>
      obtain ⟨g, _, _, rfl⟩ := step_proceed hstep
      exact Session.region_proceed _ g
    | task k =>
      have hsame := Traffic.session_advance (step_task hstep).1 fun n hn => hfin ⟨n, by rw [hn]⟩
      exact congrArg (·.panel.region) hsame
    | alert message =>
      cases hstep
      rfl

theorem since_run (hw : w.Aligned) (h : u.Since w) (hrun : w.runAlone sections = some w')
    (hmark : ∀ c, .mark c ∉ sections) : u.Since w' := by
  induction sections generalizing w with
  | nil =>
    cases hrun
    exact h
  | cons sec rest ih =>
    obtain ⟨v, hv, hrest⟩ := Steps.run_cons_eq_some.mp hrun
    obtain ⟨hne, hmark⟩ : (∀ c, sec ≠ .mark c) ∧ ∀ c, .mark c ∉ rest :=
      ⟨fun c he => hmark c (he ▸ List.mem_cons_self),
        fun c hc => hmark c (List.mem_cons_of_mem _ hc)⟩
    exact ih (aligned_step hw hv) (since_step hw h (step_of_stepAlone hv) hne) hrest hmark

/-- **The window of a displaced submission.** When the task of a submission runs its last section
after a newer submission began, what came of its exchange is applied if and only if it is the one
before the newest and the call of the newest is still to cancel it; otherwise the page is left
alone. While the newest submission is unfinished, the region is the placeholder that was written
when a call last marked the page if and only if no older submission was rendered since. -/
theorem displaced_applied_iff (hp : panel.variant = .plain)
    (h : (start endpoint .cancelPrevious panel).runAlone sections = some w) :
    (∀ pre id post u v, sections = pre ++ .task (.finish id) :: post →
      (start endpoint .cancelPrevious panel).runAlone pre = some u →
      u.step (.task (.finish id)) = some v → id + 1 < u.begun →
      (v.session.state? id ≠ some .superseded ↔
        id + 2 = u.begun ∧ u.latest.displaces = true) ∧
      (v.session.state? id = some .superseded → v.session.panel = u.session.panel) ∧
      (v.session.state? id ≠ some .superseded →
        ∃ m result, (u.traffic.tasks id).answer = some result ∧
          v.session.panel = (u.session.panel.finish m result).2.1)) ∧
    (∀ pre c post u n, sections = pre ++ .mark c :: post → (∀ c', .mark c' ∉ post) →
      (start endpoint .cancelPrevious panel).runAlone pre = some u → n + 1 = w.begun →
      (∀ st, w.session.state? n = some st → st.isTerminal = false) →
      (w.session.panel.region = (Report.placeholder, none) ↔
        ∀ id < n, w.session.state? id = some .rendered →
          u.session.state? id = some .rendered)) := by
  refine ⟨fun pre id post u v _ hu hv hid => ?_, fun pre c post u n hsplit hpost hu hn hst => ?_⟩
  · have hcan := isCancelled_iff_not_displaced (aligned_of_run hp hu) hid
    obtain ⟨hc, hsup, hpanel⟩ | ⟨hc, m, result, hres, hend, hpanel⟩ :=
      finish_cases (aligned_of_run hp hu) hv
    · exact ⟨iff_of_false (fun hne => hne hsup) (hcan.mp hc), fun _ => hpanel,
        fun hne => absurd hsup hne⟩
    · have hne : v.session.state? id ≠ some .superseded := by
        rw [hend]
        simpa using SubmissionState.ofResult_ne_superseded result
      rw [hc] at hcan
      exact ⟨iff_of_true hne (not_not.mp fun hn => Bool.false_ne_true (hcan.mpr hn)),
        fun hsup => absurd hsup hne, fun _ => ⟨m, result, hres, hpanel⟩⟩
  · rw [hsplit] at h
    obtain ⟨u', hu', hrest⟩ := Steps.run_append_eq_some.mp h
    obtain rfl : u' = u := Option.some_inj.mp (hu'.symm.trans hu)
    obtain ⟨v, hv, hrun⟩ := Steps.run_cons_eq_some.mp hrest
    have hual := aligned_of_run hp hu
    have hsince := since_run (aligned_step hual hv)
      (since_mark hual (step_of_stepAlone hv)) hrun hpost
    rw [hsince.region]
    constructor
    · exact fun hall id _ => hall id
    · intro hall id hid
      -- the newest is unfinished, and what was rendered is enrolled
      refine hall id ?_ hid
      have hlt := Session.lt_length_of_state? hid
      have hne : id ≠ n := by
        rintro rfl
        cases hst _ hid
      unfold begun at hn
      split at hn <;> omega

/-- Two submissions one after the other; the first is answered before the second begins. -/
def answeredThenMarked : List Section :=
  [.mark (.submit ⟨.solidity, "a", "", none⟩), .proceed 0, .proceed 0, .proceed 0,
    .task (.answer 0 (.ok { data := "old" })), .task (.wake 0 .answered),
    .mark (.submit ⟨.bytecode, "b", "", none⟩)]

/-- The first one is superseded if its task runs its last section after the second cancelled it,
and the region is left as the second marked it. -/
theorem superseded_after_window :
    ∃ u v w, (start { scheme := "http", path := .rooted [] } .cancelPrevious
        (.fresh .plain)).runAlone (answeredThenMarked ++ [.proceed 1, .proceed 1]) = some u ∧
      u.stepAlone (.task (.finish 0)) = some v ∧ v.runAlone [.proceed 1] = some w ∧
      v.session.state? 0 = some .superseded ∧ v.session.panel = u.session.panel ∧
      w.session.state? 1 = some .submitted ∧
      w.session.panel.region = (Report.placeholder, none) := by
  obtain ⟨x, hx⟩ : ∃ x, (start { scheme := "http", path := .rooted [] } .cancelPrevious
      (.fresh .plain)).runAlone (answeredThenMarked.take 6) = some x := ⟨_, rfl⟩
  obtain ⟨u, v, w, hu, hv, hw, hbegun, hdisplaces, hn, h0, h1⟩ :
      ∃ u v w, (start { scheme := "http", path := .rooted [] } .cancelPrevious
          (.fresh .plain)).runAlone (answeredThenMarked ++ [.proceed 1, .proceed 1]) = some u ∧
        u.stepAlone (.task (.finish 0)) = some v ∧ v.runAlone [.proceed 1] = some w ∧
        u.begun = 2 ∧ u.latest.displaces = false ∧ w.begun = 2 ∧
        w.session.state? 0 = some .superseded ∧ w.session.state? 1 = some .submitted :=
    ⟨_, _, _, rfl, rfl, rfl, rfl, rfl, rfl, rfl, rfl⟩
  have hplain : (Panel.fresh .plain).variant = .plain := rfl
  obtain ⟨hfinish, hregion⟩ := displaced_applied_iff hplain
    (Steps.run_append_eq_some.mpr ⟨u, hu, Steps.run_cons_eq_some.mpr ⟨v, hv, hw⟩⟩)
  have hlast := hfinish (answeredThenMarked ++ [.proceed 1, .proceed 1]) 0 [.proceed 1] u v rfl
  obtain ⟨happlied, hkept, _⟩ := hlast hu (step_of_stepAlone hv) (by omega)
  have hsup : v.session.state? 0 = some .superseded := by
    by_contra hne
    simp [hdisplaces] at happlied
    exact hne happlied
  refine ⟨u, v, w, hu, hv, hw, hsup, hkept hsup, h1, ?_⟩
  refine (hregion (answeredThenMarked.take 6) (.submit ⟨.bytecode, "b", "", none⟩)
    [.proceed 1, .proceed 1, .task (.finish 0), .proceed 1] x 1 rfl (by simp) hx hn.symm
    fun st hst => ?_).mpr fun id hid hr => ?_
  · rw [h1] at hst
    cases hst
    rfl
  · obtain rfl : id = 0 := by omega
    rw [h0] at hr
    cases hr

/-- A last section in the window: the second submission marked the page and did not cancel the
first, whose report is shown while the second is under way. -/
theorem rendered_in_window :
    ∃ u v w, (start { scheme := "http", path := .rooted [] } .cancelPrevious
        (.fresh .plain)).runAlone answeredThenMarked = some u ∧
      u.begun = 2 ∧ u.session.panel.lastResponse = none ∧
      u.stepAlone (.task (.finish 0)) = some v ∧ v.session.state? 0 = some .rendered ∧
      v.runAlone [.proceed 1, .proceed 1, .proceed 1] = some w ∧
      w.session.state? 1 = some .submitted ∧
      w.session.panel.lastResponse = some { data := "old" } ∧
      w.session.panel.region ≠ (Report.placeholder, none) := by
  refine ⟨_, _, _, rfl, rfl, rfl, rfl, rfl, rfl, rfl, rfl, fun h => ?_⟩
  cases congrArg Prod.snd h

end Interleaving

end TaintClient

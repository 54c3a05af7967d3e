/-
  Sessions whose calls are interrupted. A call is a row of sections: it marks the page, then puts
  its submission into the place, cancels the one before, and launches; or, where its form lacks an
  element, it takes the mark back. Between two sections anything else may happen: sections of other
  calls, steps of tasks, alerts. `exists_sections_of_run`: calls that run to their return are the
  special case in which nothing does.
-/
import TaintClient.Proofs.Session.Traffic

namespace TaintClient

/-- Where a call is. -/
inductive Stage
  /-- The page is marked. -/
  | marked (c : Call)
  /-- Its submission took the place of the one before, which is still to be cancelled. -/
  | replaced (id : Nat) (m : Mode) (previous : Option Nat)
  /-- Its submission is still to be launched. -/
  | cleared (id : Nat) (m : Mode)
  /-- It returned. -/
  | returned

/-- The next section of a call. -/
def Session.proceed (s : Session) : Stage → Session × Stage
  | .marked c =>
    match c.request with
    | .error _ => (s.unmark c.mode, .returned)
    | .ok r =>
      let (s, id) := s.enrol r
      let (s, previous) := s.replace id
      (s, .replaced id r.mode previous)
  | .replaced id m previous => (s.clear previous, .cleared id m)
  | .cleared id m => (s.launch id m, .returned)
  | .returned => (s, .returned)

/-- Once it marked the page, a call leaves the region alone. -/
theorem Session.region_proceed (s : Session) (g : Stage) :
    (s.proceed g).1.panel.region = s.panel.region := by
  cases g with
  | returned => rfl
  | marked c =>
    cases hr : c.request with
    | error e =>
      simp only [proceed, hr]
      exact Panel.region_release _ _
    | ok r =>
      simp only [proceed, hr]
      exact congrArg Panel.region (panel_replace _ _)
  | replaced id m previous => exact congrArg Panel.region (panel_clear s previous)
  | cleared id m => rfl

/-- What holds a lock of the session, or happens outside of it. -/
inductive Section
  /-- A call begins. -/
  | mark (c : Call)
  /-- The call of a number goes on. -/
  | proceed (i : Nat)
  | task (k : TaskStep)
  | alert (message : String)

/-- A session, its tasks, and its calls in the order in which they began. -/
structure Interleaving where
  traffic : Traffic
  calls : List Stage := []

namespace Interleaving

/-- The session. -/
def session (w : Interleaving) : Session := w.traffic.session

/-- Changes the session. -/
def setSession (w : Interleaving) (s : Session) : Interleaving :=
  { w with traffic := { w.traffic with session := s } }

/-- A session before anything is submitted. -/
def start (endpoint : Url) (policy : ResubmitPolicy) (panel : Panel) : Interleaving :=
  { traffic := .start endpoint policy panel }

/-- One section; a call that returned, and a task step that is not due, are refused. -/
def step (w : Interleaving) : Section → Option Interleaving
  | .mark c => some { w.setSession (w.session.mark c.mode) with calls := w.calls ++ [.marked c] }
  | .proceed i =>
    match w.calls[i]? with
    | none | some .returned => none
    | some g =>
      some { w.setSession (w.session.proceed g).1 with
        calls := w.calls.set i (w.session.proceed g).2 }
  | .task k => (w.traffic.advance k).map fun t => { w with traffic := t }
  | .alert message => some (w.setSession (w.session.alert message))

/-- The state after a list of sections, if none of them is refused. -/
def run (w : Interleaving) (sections : List Section) : Option Interleaving :=
  Steps.run step w sections

/-- No call is under way. -/
def Quiet (w : Interleaving) : Prop := ∀ g ∈ w.calls, g = .returned

variable {w w' : Interleaving}

/-! ## What a section does -/

theorem step_mark (w : Interleaving) (c : Call) :
    w.step (.mark c) =
      some { w.setSession (w.session.mark c.mode) with calls := w.calls ++ [.marked c] } := rfl

/-- A call goes on from the stage where it is. -/
theorem step_proceed {i : Nat} (h : w.step (.proceed i) = some w') :
    ∃ g, w.calls[i]? = some g ∧ g ≠ .returned ∧
      w' = { w.setSession (w.session.proceed g).1 with
        calls := w.calls.set i (w.session.proceed g).2 } := by
  simp only [step] at h
  split at h
  · cases h
  · cases h
  · rename_i g hret hg
    cases h
    exact ⟨g, hg, hret, rfl⟩

theorem step_proceed_of_getElem? {i : Nat} {g : Stage} (hg : w.calls[i]? = some g)
    (hret : g ≠ .returned) :
    w.step (.proceed i) =
      some { w.setSession (w.session.proceed g).1 with
        calls := w.calls.set i (w.session.proceed g).2 } := by
  simp only [step, hg]

theorem step_task {k : TaskStep} (h : w.step (.task k) = some w') :
    w.traffic.advance k = some w'.traffic ∧ w'.calls = w.calls := by
  obtain ⟨t, ht, rfl⟩ := Option.map_eq_some_iff.mp h
  exact ⟨ht, rfl⟩

/-! ## Calls that are not interrupted -/

/-- The sections of a call that comes as the `i`-th and runs to its return. -/
def wholeCall (c : Call) (i : Nat) : List Section :=
  .mark c :: if c.dispatches then [.proceed i, .proceed i, .proceed i] else [.proceed i]

/-- The newest call goes on. -/
theorem run_proceed_newest (w : Interleaving) {g : Stage} (hret : g ≠ .returned) (s : Session)
    (rest : List Section) :
    run { w.setSession s with calls := w.calls ++ [g] } (.proceed w.calls.length :: rest) =
      run { w.setSession (s.proceed g).1 with calls := w.calls ++ [(s.proceed g).2] } rest := by
  unfold run
  rw [Steps.run_cons, step_proceed_of_getElem? List.getElem?_concat_length hret]
  show Steps.run step { w.setSession (s.proceed g).1 with
    calls := (w.calls ++ [g]).set w.calls.length (s.proceed g).2 } rest = _
  rw [List.set_append_right _ _ (Nat.le_refl _), Nat.sub_self]
  rfl

/-- A call whose sections come one after the other is a whole call. -/
theorem run_wholeCall (w : Interleaving) (c : Call) :
    w.run (wholeCall c w.calls.length) =
      some { w.setSession (w.session.call c) with calls := w.calls ++ [.returned] } := by
  unfold wholeCall run
  rw [Steps.run_cons, step_mark, Option.bind_some]
  show run _ _ = _
  cases hr : c.request with
  | error e =>
    have hd : c.dispatches = false := by simp only [Call.dispatches, hr]
    rw [hd, if_neg Bool.false_ne_true, run_proceed_newest w (by simp), Session.call_of_error _ hr]
    simp only [Session.proceed, hr]
    rfl
  | ok r =>
    have hd : c.dispatches = true := by simp only [Call.dispatches, hr]
    rw [hd, if_pos rfl, run_proceed_newest w (by simp), Session.call_of_ok _ hr]
    simp only [Session.proceed, hr]
    rw [run_proceed_newest w (by simp)]
    simp only [Session.proceed]
    rw [run_proceed_newest w (by simp)]
    simp only [Session.proceed, Session.dispatch_eq]
    rfl

/-- Every run of whole calls is an interleaving in which no call is left under way. -/
theorem exists_sections_of_run {events : List Event} {t : Traffic} (hq : w.Quiet)
    (h : w.traffic.run events = some t) :
    ∃ sections calls, w.run sections = some ⟨t, calls⟩ ∧ ∀ g ∈ calls, g = .returned := by
  induction events generalizing w with
  | nil =>
    cases h
    exact ⟨[], w.calls, rfl, hq⟩
  | cons e es ih =>
    obtain ⟨u, hu, hrun⟩ := Steps.run_cons_eq_some.mp h
    cases e with
    | call c =>
      cases hu
      obtain ⟨sections, calls, hs, hret⟩ :=
        ih (w := { w.setSession (w.session.call c) with calls := w.calls ++ [.returned] })
          (fun g hg => by
            rcases List.mem_append.mp hg with hg | hg
            · exact hq g hg
            · exact List.mem_singleton.mp hg) hrun
      exact ⟨wholeCall c w.calls.length ++ sections, calls,
        Steps.run_append_eq_some.mpr ⟨_, run_wholeCall w c, hs⟩, hret⟩
    | task k =>
      obtain ⟨sections, calls, hs, hret⟩ := ih (w := { w with traffic := u }) hq hrun
      refine ⟨.task k :: sections, calls, Steps.run_cons_eq_some.mpr ⟨_, ?_, hs⟩, hret⟩
      exact Option.map_eq_some_iff.mpr ⟨u, hu, rfl⟩
    | alert message =>
      cases hu
      obtain ⟨sections, calls, hs, hret⟩ :=
        ih (w := w.setSession (w.session.alert message)) hq hrun
      exact ⟨.alert message :: sections, calls, Steps.run_cons_eq_some.mpr ⟨_, rfl, hs⟩, hret⟩

end Interleaving

end TaintClient

/-
  What a session notes is of one line, as long as the answers that its tasks get are what exchanges
  with its endpoint came to. Its calls, tasks and alerts may come in any order; what they bring
  with them, the texts of requests and of alerts, is not in any note.
-/
import TaintClient.Proofs.Exchange.Wording
import TaintClient.Proofs.Session.Journal

namespace TaintClient

open Text (oneLine_append)

/-! ## Notes -/

namespace Session

variable {s : Session} {m : Mode}

theorem oneLine_state (st : SubmissionState) : Text.OneLine st.name.toList := by
  cases st <;> decide

theorem oneLine_submittedNote {u : Url} (hu : u.IsPrintable) (m : Mode) :
    (submittedNote u m).OneLine := by
  simp only [Log.Record.OneLine, submittedNote, note, String.toList_append, oneLine_append]
  exact ⟨⟨⟨by decide, m.oneLine_name⟩, by decide⟩, hu.oneLine⟩

theorem oneLine_finishedNote (m : Mode) (st : SubmissionState) : (finishedNote m st).OneLine := by
  simp only [Log.Record.OneLine, finishedNote, note, String.toList_append, oneLine_append]
  exact ⟨⟨m.oneLine_name, by decide⟩, oneLine_state st⟩

theorem oneLine_supersededNote (m : Mode) : (supersededNote m).OneLine := by
  simp only [Log.Record.OneLine, supersededNote, note, String.toList_append, oneLine_append]
  exact ⟨m.oneLine_name, by decide⟩

theorem oneLine_faultNote (m : Mode) {f : Failure} (hf : f.OneLine) :
    (Panel.faultNote m f).OneLine := by
  simp only [Log.Record.OneLine, Panel.faultNote, String.toList_append, oneLine_append]
  exact ⟨⟨m.oneLine_name, by decide⟩, hf⟩

/-- What a page notes of a result whose failure is worded on one line. -/
theorem oneLine_finish (p : Panel) (m : Mode) {result : Except Failure Response}
    (hr : FailsWith Failure.OneLine result) : ∀ n ∈ (p.finish m result).2.2, n.OneLine := by
  cases result with
  | ok r => exact List.forall_mem_nil _
  | error f =>
    rw [Panel.finish_error]
    split
    · exact List.forall_mem_nil _
    · exact List.forall_mem_singleton.mpr (oneLine_faultNote m (hr f rfl))

theorem oneLine_apply (hs : ∀ n ∈ s.notes, n.OneLine) (id : Nat) (m : Mode)
    {result : Except Failure Response} (hr : FailsWith Failure.OneLine result) :
    ∀ n ∈ (s.apply id m result).notes, n.OneLine := by
  rw [(closes_apply s id m result).notes]
  exact List.forall_mem_append.mpr ⟨hs, List.forall_mem_append.mpr
    ⟨oneLine_finish s.panel m hr, List.forall_mem_singleton.mpr (oneLine_finishedNote m _)⟩⟩

end Session

/-! ## Sections -/

/-- An answer of a task was there before a step, unless the step brings it. -/
theorem Traffic.answer_of_advance {t t' : Traffic} {k : TaskStep} (h : t.advance k = some t')
    {id : Nat} {result : Except Failure Response} (hr : (t'.tasks id).answer = some result) :
    (t.tasks id).answer = some result ∨ k = .answer id result := by
  cases k with
  | answer j answer =>
    simp only [advance] at h
    split at h <;> cases h
    by_cases hj : id = j
    · subst hj
      simp only [setTask, Function.update_self, Option.some_inj] at hr
      exact .inr (hr ▸ rfl)
    · simp only [setTask, Function.update_of_ne hj] at hr
      exact .inl hr
  | wake j branch =>
    simp only [advance] at h
    split at h <;> cases h
    by_cases hj : id = j
    · subst hj
      simp only [setTask, Function.update_self] at hr
      exact .inl hr
    · simp only [setTask, Function.update_of_ne hj] at hr
      exact .inl hr
  | finish j =>
    simp only [advance] at h
    split at h <;> cases h
    exact .inl hr

namespace Interleaving

variable {w w' : Interleaving} {sec : Section} {endpoint : Url} {policy : ResubmitPolicy}
  {panel : Panel} {sections : List Section}

theorem answer_of_step (h : w.step sec = some w') {id : Nat} {result : Except Failure Response}
    (hr : (w'.traffic.tasks id).answer = some result) :
    (w.traffic.tasks id).answer = some result ∨ sec = .task (.answer id result) := by
  cases sec with
  | task k =>
    obtain hold | rfl := Traffic.answer_of_advance (step_task h).1 hr
    · exact .inl hold
    · exact .inr rfl
  | proceed i =>
    obtain ⟨g, _, _, rfl⟩ := step_proceed h
    exact .inl hr
  | mark c | alert message =>
    cases h
    exact .inl hr

/-- Every answer that a task got, if it is a failure, is worded on one line, and so is every
note. -/
structure Worded (w : Interleaving) : Prop where
  answers : ∀ id result, (w.traffic.tasks id).answer = some result →
    FailsWith Failure.OneLine result
  notes : ∀ n ∈ w.session.notes, n.OneLine

/-- A section keeps to that, if what it answers does. -/
theorem Worded.step (hw : w.Worded) (hkept : w.Kept) (hu : w.session.endpoint.IsPrintable)
    (h : w.step sec = some w')
    (hsec : ∀ id result, sec = .task (.answer id result) → FailsWith Failure.OneLine result) :
    w'.Worded where
  answers id result hr := by
    obtain hold | hnew := answer_of_step h hr
    · exact hw.answers id result hold
    · exact hsec id result hnew
  notes := by
    obtain ⟨added, raised, hadds⟩ := adds_step hkept h
    have hnotes := hadds.notes
    cases hadds.move with
    | silent | alert =>
      rw [hnotes, List.append_nil]
      exact hw.notes
    | launch i id m =>
      rw [hnotes]
      exact List.forall_mem_append.mpr ⟨hw.notes,
        List.forall_mem_singleton.mpr (Session.oneLine_submittedNote hu m)⟩
    | finish id m st notes hfinish =>
      subst hfinish
      obtain ⟨sub, _, _, _, ⟨_, hs⟩ | ⟨_, result, hr, hs⟩⟩ :=
        Traffic.advance_finish hkept.sound (step_task h).1
      · show ∀ n ∈ w'.traffic.session.notes, n.OneLine
        rw [hs]
        exact List.forall_mem_append.mpr ⟨hw.notes,
          List.forall_mem_singleton.mpr (Session.oneLine_supersededNote _)⟩
      · show ∀ n ∈ w'.traffic.session.notes, n.OneLine
        rw [hs]
        exact Session.oneLine_apply hw.notes id _ (hw.answers id result hr)

/-- Whether every answer that a task gets is what an exchange with the endpoint came to. -/
def Exchanged (endpoint : Url) (sections : List Section) : Prop :=
  ∀ id result, .task (.answer id result) ∈ sections →
    ∃ (σ : Type) (service : Http.Service σ) (s : σ) (r : Request),
      ((Exchange.analyze service.observed endpoint r).run (s, [])).1.result = result

/-- What a session notes is of one line, in every interleaving and whatever the service does. -/
theorem oneLine_of_run (hu : endpoint.IsPrintable)
    (h : (start endpoint policy panel).run sections = some w) (hs : Exchanged endpoint sections) :
    ∀ n ∈ w.session.notes, n.OneLine := by
  refine Worded.notes (run_induction
    (P := fun done w => Exchanged endpoint done → w.Worded) (fun _ => ⟨nofun, nofun⟩) ?_ h hs)
  intro done u sec w _ _ hrun ih hstep _ hs
  have hdone : Exchanged endpoint done := fun id result hmem =>
    hs id result (List.mem_append_left _ hmem)
  refine (ih hdone).step (kept_of_run hrun) ((endpoint_of_run hrun).symm ▸ hu) hstep ?_
  rintro id _ rfl
  obtain ⟨σ, service, s, r, rfl⟩ := hs id _ (List.mem_append_right _ List.mem_cons_self)
  exact (Exchange.oneLine_analyze service s hu r).failure

end Interleaving

end TaintClient

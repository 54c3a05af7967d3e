/-
  What a section adds to the notes and to the alerts, and how it moves submissions. A section does
  one of four things (`Move`): it launches a submission and notes that; it ends a submission, with
  the notes and the alert that go with its end; it alerts the user on request; or it adds nothing,
  and all it may do to the submissions is enrol one.
-/
import TaintClient.Proofs.Session.Waiting

namespace TaintClient

namespace Session

variable {s t : Session} {id : Nat} {m : Mode} {st : SubmissionState}

/-- The mode of a submission, and where it stands. -/
def standing? (s : Session) (id : Nat) : Option (Mode × SubmissionState) :=
  s.submissions[id]?.map fun sub => (sub.request.mode, sub.state)

/-! ## Where submissions stand -/

theorem standing?_of_getElem? {sub : Submission} (h : s.submissions[id]? = some sub) :
    s.standing? id = some (sub.request.mode, sub.state) := by
  rw [standing?, h, Option.map_some]

theorem state?_eq_standing? (s : Session) (id : Nat) :
    s.state? id = (s.standing? id).map (·.2) := by
  unfold state? standing?
  rw [Option.map_map]
  rfl

theorem standing?_enrol (s : Session) (r : Request) (j : Nat) :
    (s.enrol r).1.standing? j =
      if j = s.submissions.length then some (r.mode, .idle) else s.standing? j := by
  unfold standing?
  rw [getElem?_enrol]
  split <;> rfl

theorem standing?_replace (s : Session) (id j : Nat) :
    (s.replace id).1.standing? j = s.standing? j := by
  unfold standing?
  rw [submissions_replace]

theorem standing?_clear (s : Session) (previous : Option Nat) (j : Nat) :
    (s.clear previous).standing? j = s.standing? j := by
  cases previous with
  | none => rfl
  | some p =>
    exact map_getElem?_modify (f := ({ · with isCancelled := true })) (fun _ => rfl) s p j

theorem standing?_modify_state (s : Session) (st : SubmissionState) (id j : Nat) :
    (s.modify id ({ · with state := st })).standing? j =
      if id = j then (s.standing? j).map fun p => (p.1, st) else s.standing? j := by
  unfold standing? modify
  rw [List.getElem?_modify]
  cases s.submissions[j]? with
  | none => simp
  | some sub =>
    by_cases h : id = j
    · simp [h]
    · simp [h]

theorem standing?_launch (s : Session) (id : Nat) (m : Mode) (j : Nat) :
    (s.launch id m).standing? j =
      if id = j then (s.standing? j).map fun p => (p.1, .submitted) else s.standing? j :=
  standing?_modify_state s .submitted id j

theorem Ends.standing?_eq (h : s.Ends id m st t) (j : Nat) :
    t.standing? j = if id = j then (s.standing? j).map fun p => (p.1, st) else s.standing? j := by
  have hm := standing?_modify_state s st id j
  unfold standing? at hm ⊢
  rw [h.submissions]
  exact hm

/-! ## Sections that add nothing -/

/-- Nothing was noted, and nobody was alerted. -/
structure Silent (s t : Session) : Prop where
  notes : t.notes = s.notes
  alerts : t.panel.alerts = s.panel.alerts
  endpoint : t.endpoint = s.endpoint

theorem silent_mark (s : Session) (m : Mode) : s.Silent (s.mark m) :=
  ⟨rfl, Panel.alerts_start _ _, rfl⟩

theorem silent_unmark (s : Session) (m : Mode) : s.Silent (s.unmark m) :=
  ⟨rfl, Panel.alerts_release _ _, rfl⟩

theorem silent_replace (s : Session) (r : Request) (id : Nat) :
    s.Silent ((s.enrol r).1.replace id).1 := by
  unfold replace
  split <;> exact ⟨rfl, rfl, rfl⟩

theorem silent_clear (s : Session) (previous : Option Nat) : s.Silent (s.clear previous) := by
  cases previous <;> exact ⟨rfl, rfl, rfl⟩

/-- A call that read its form notes nothing, whether or not it goes on. -/
theorem silent_proceed_marked (s : Session) (c : Call) : s.Silent (s.proceed (.marked c)).1 := by
  cases hr : c.request with
  | error e =>
    simp only [proceed, hr]
    exact silent_unmark s c.mode
  | ok r =>
    simp only [proceed, hr]
    exact silent_replace s r _

/-- A call that read its form enrols a submission, or it leaves the submissions alone. -/
theorem standing?_proceed_marked (s : Session) (c : Call) (id : Nat) :
    (s.proceed (.marked c)).1.standing? id = s.standing? id ∨
      s.standing? id = none ∧ ∃ m, (s.proceed (.marked c)).1.standing? id = some (m, .idle) := by
  cases hr : c.request with
  | error e =>
    simp only [proceed, hr]
    exact .inl rfl
  | ok r =>
    simp only [proceed, hr]
    rw [standing?_replace, standing?_enrol]
    split
    · rename_i hid
      refine .inr ⟨?_, r.mode, rfl⟩
      rw [hid, standing?, List.getElem?_eq_none (Nat.le_refl _)]
      rfl
    · exact .inl rfl

/-! ## The end of a submission -/

/-- The notes at the end of a submission of a mode: it was superseded, or it is said where it
stands, behind the failure where one was not shown. -/
inductive Ending (m : Mode) : SubmissionState → List Log.Record → Prop
  | rendered : Ending m .rendered [finishedNote m .rendered]
  | alerted : Ending m .alerted [finishedNote m .alerted]
  | faulted (f : Failure) :
    Ending m .faulted [Panel.faultNote m f, finishedNote m .faulted]
  | superseded : Ending m .superseded [supersededNote m]

/-- What is added at the end of a submission: an alert, if it ends in one. -/
structure Closes (s : Session) (m : Mode) (st : SubmissionState) (notes : List Log.Record)
    (t : Session) : Prop where
  ending : Ending m st notes
  notes : t.notes = s.notes ++ notes
  alerts : t.panel.alerts =
    s.panel.alerts ++ if st = .alerted then [Panel.alertMessage] else []
  endpoint : t.endpoint = s.endpoint

theorem closes_supersede (s : Session) (id : Nat) (m : Mode) :
    s.Closes m .superseded [supersededNote m] (s.supersede id m) where
  ending := .superseded
  notes := rfl
  alerts := (Panel.alerts_release _ _).trans (List.append_nil _).symm
  endpoint := rfl

/-- The notes of a page on what came of a submission, and that on its state, are those of its
end. -/
theorem ending_finish (p : Panel) (m : Mode) (result : Except Failure Response) :
    Ending m (.ofResult result)
      ((p.finish m result).2.2 ++ [finishedNote m (.ofResult result)]) := by
  cases result with
  | ok r => exact .rendered
  | error f =>
    simp only [Panel.finish_error, SubmissionState.ofResult]
    split
    · exact .alerted
    · exact .faulted f

theorem closes_apply (s : Session) (id : Nat) (m : Mode) (result : Except Failure Response) :
    s.Closes m (.ofResult result)
      ((s.panel.finish m result).2.2 ++ [finishedNote m (.ofResult result)])
      (s.apply id m result) where
  ending := ending_finish s.panel m result
  notes := by
    rw [← Panel.finish_state s.panel m result]
    rfl
  alerts := Panel.alerts_finish s.panel m result
  endpoint := rfl

end Session

/-- A last section of a task closes the submission that it ends. -/
theorem Traffic.closes_of_advance {t t' : Traffic} {id : Nat} (ht : t.Sound)
    (h : t.advance (.finish id) = some t') :
    ∃ m st notes, t.session.standing? id = some (m, .submitted) ∧
      t.session.Ends id m st t'.session ∧ t.session.Closes m st notes t'.session := by
  obtain ⟨sub, hsub, hstate, _, ⟨_, he⟩ | ⟨_, result, _, he⟩⟩ := advance_finish ht h
  · have hends := Session.ends_supersede t.session id sub.request.mode
    have hcloses := Session.closes_supersede t.session id sub.request.mode
    rw [← he] at hends hcloses
    exact ⟨_, _, _, hstate ▸ Session.standing?_of_getElem? hsub, hends, hcloses⟩
  · have hends := Session.ends_apply t.session id sub.request.mode result
    have hcloses := Session.closes_apply t.session id sub.request.mode result
    rw [← he] at hends hcloses
    exact ⟨_, _, _, hstate ▸ Session.standing?_of_getElem? hsub, hends, hcloses⟩

/-! ## What calls are to launch -/

/-- The submission that a call is still to launch, and its mode. -/
def Stage.launch? : Stage → Option (Nat × Mode)
  | .replaced id m _ | .cleared id m => some (id, m)
  | _ => none

theorem Stage.submission?_eq (g : Stage) : g.submission? = g.launch?.map (·.1) := by
  cases g <;> rfl

namespace Interleaving

variable {w w' : Interleaving} {sec : Section} {endpoint : Url} {policy : ResubmitPolicy}
  {panel : Panel} {sections : List Section}

/-- The submission that the call of a number is still to launch, and its mode. -/
def launching (w : Interleaving) (i : Nat) : Option (Nat × Mode) := w.calls[i]?.bind Stage.launch?

theorem awaited_eq_launching (w : Interleaving) (i : Nat) :
    w.awaited i = (w.launching i).map (·.1) := by
  unfold awaited launching
  cases w.calls[i]? with
  | none => rfl
  | some g => exact g.submission?_eq

/-- What calls are to launch is idle, and of the mode that it is launched for. -/
def Launchable (w : Interleaving) : Prop :=
  ∀ i id m, w.launching i = some (id, m) → w.session.standing? id = some (m, .idle)

theorem launchable_start : (start endpoint policy panel).Launchable := by
  intro _ _ _ h
  contradiction

/-- A section of a call moves the launches of that call only. -/
theorem launching_set {i : Nat} {g : Stage} (hg : w.calls[i]? = some g) (g' : Stage) (s : Session)
    (j : Nat) :
    launching { w.setSession s with calls := w.calls.set i g' } j =
      if j = i then g'.launch? else w.launching j := by
  have hlt : i < w.calls.length := (List.getElem?_eq_some_iff.mp hg).1
  unfold launching
  by_cases h : j = i
  · rw [if_pos h, h, List.getElem?_set_self hlt]
    rfl
  · rw [if_neg h, List.getElem?_set_ne (Ne.symm h)]

/-- Nothing is launched but idle submissions, so the end of another one does not matter. -/
theorem Launchable.ends (h : w.Launchable) {id : Nat} {m n : Mode} {st : SubmissionState}
    (hs : w.session.standing? id = some (n, .submitted))
    (he : w.session.Ends id m st w'.session) (hcalls : w'.calls = w.calls) : w'.Launchable := by
  intro i j k hj
  unfold launching at hj
  rw [hcalls] at hj
  have hidle := h i j k hj
  have hne : id ≠ j := by
    rintro rfl
    rw [hs] at hidle
    cases hidle
  rw [he.standing?_eq, if_neg hne, hidle]

theorem launchable_proceed (hw : w.Waiting) (h : w.Launchable) {i : Nat} {g : Stage}
    (hg : w.calls[i]? = some g) (hret : g ≠ .returned) :
    Launchable { w.setSession (w.session.proceed g).1 with
      calls := w.calls.set i (w.session.proceed g).2 } := by
  intro j id m hj
  rw [launching_set hg] at hj
  show (w.session.proceed g).1.standing? id = _
  cases g with
  | returned => exact absurd rfl hret
  | marked c =>
    cases hr : c.request with
    | error e =>
      simp only [Session.proceed, hr] at hj ⊢
      split at hj
      · cases hj
      · exact h j id m hj
    | ok r =>
      simp only [Session.proceed, hr] at hj ⊢
      rw [Session.standing?_replace, Session.standing?_enrol]
      split at hj
      · cases hj
        exact if_pos rfl
      · have hidle := h j id m hj
        have hne : id ≠ w.session.submissions.length := by
          rintro rfl
          rw [Session.standing?, List.getElem?_eq_none (Nat.le_refl _)] at hidle
          cases hidle
        rw [if_neg hne, hidle]
  | replaced n k previous =>
    have hi : w.launching i = some (n, k) := by rw [launching, hg]; rfl
    refine (Session.standing?_clear _ previous id).trans ?_
    split at hj
    · cases hj
      exact h i _ _ hi
    · exact h j id m hj
  | cleared n k =>
    have hi : w.awaited i = some n := by rw [awaited, hg]; rfl
    split at hj
    · cases hj
    · rename_i hji
      refine (Session.standing?_launch _ n k id).trans ?_
      rw [if_neg]
      · exact h j id m hj
      · rintro rfl
        have hwait : w.awaited j = some n := by rw [awaited_eq_launching, hj]; rfl
        exact hji (hw.distinct j i n hwait hi)

theorem launchable_step (hs : w.traffic.Sound) (hw : w.Waiting) (hl : w.Launchable)
    (h : w.step sec = some w') : w'.Launchable := by
  cases sec with
  | mark c =>
    cases h
    intro i id m hi
    refine hl i id m ?_
    unfold launching at hi ⊢
    rw [List.getElem?_append] at hi
    split at hi
    · exact hi
    · rw [List.getElem?_singleton] at hi
      split at hi <;> cases hi
  | proceed i =>
    obtain ⟨g, hg, hret, rfl⟩ := step_proceed h
    exact launchable_proceed hw hl hg hret
  | task k =>
    obtain ⟨hadv, hcalls⟩ := step_task h
    by_cases hfin : ∃ id, k = .finish id
    · obtain ⟨id, rfl⟩ := hfin
      obtain ⟨m, st, notes, hst, hends, _⟩ := Traffic.closes_of_advance hs hadv
      exact hl.ends hst hends hcalls
    · have hsame : w'.session = w.session :=
        Traffic.session_advance hadv fun id hk => hfin ⟨id, hk⟩
      intro i id m hi
      unfold launching at hi
      rw [hcalls] at hi
      rw [hsame]
      exact hl i id m hi
  | alert message =>
    cases h
    exact hl

/-- The tasks are sound, no two calls wait for the same submission, and what they wait for can be
launched. -/
structure Kept (w : Interleaving) : Prop where
  sound : w.traffic.Sound
  waiting : w.Waiting
  launchable : w.Launchable

theorem kept_start : (start endpoint policy panel).Kept :=
  ⟨Traffic.sound_start endpoint policy panel, waiting_start, launchable_start⟩

theorem Kept.step (h : w.Kept) (hw : w.step sec = some w') : w'.Kept :=
  ⟨sound_step h.sound hw, waiting_step h.sound h.waiting hw,
    launchable_step h.sound h.waiting h.launchable hw⟩

theorem kept_of_run (h : (start endpoint policy panel).run sections = some w) : w.Kept :=
  Steps.invariant_of_run (fun _ _ _ => Kept.step) kept_start h

/-! ## What a section adds -/

/-- The submission that a section works for: the one that its call is to launch, or the one whose
task it belongs to. -/
def subject (w : Interleaving) : Section → Option Nat
  | .proceed i => w.awaited i
  | .task k => some k.id
  | _ => none

/-- What a section does to the submissions, with the notes and the alerts that it adds. -/
inductive Move (w : Interleaving) (sec : Section) (w' : Interleaving) :
    List Log.Record → List String → Prop
  | silent (hsec : ∀ message, sec ≠ .alert message)
      (hstanding : ∀ id, w'.session.standing? id = w.session.standing? id ∨
        w.session.standing? id = none ∧ ∃ m, w'.session.standing? id = some (m, .idle)) :
      Move w sec w' [] []
  | alert (message : String) (hsec : sec = .alert message)
      (hstanding : ∀ id, w'.session.standing? id = w.session.standing? id) :
      Move w sec w' [] [message]
  | launch (i id : Nat) (m : Mode) (hsec : sec = .proceed i) (hsubject : w.subject sec = some id)
      (hidle : w.session.standing? id = some (m, .idle))
      (hstanding : ∀ j, w'.session.standing? j =
        if id = j then some (m, .submitted) else w.session.standing? j) :
      Move w sec w' [Session.submittedNote w.session.endpoint m] []
  | finish (id : Nat) (m : Mode) (st : SubmissionState) (notes : List Log.Record)
      (hsec : sec = .task (.finish id))
      (hsubmitted : w.session.standing? id = some (m, .submitted))
      (hending : Session.Ending m st notes)
      (hstanding : ∀ j, w'.session.standing? j =
        if id = j then some (m, st) else w.session.standing? j) :
      Move w sec w' notes (if st = .alerted then [Panel.alertMessage] else [])

/-- A section adds notes and alerts behind those that are there, and moves the submissions
accordingly. -/
structure Adds (w : Interleaving) (sec : Section) (w' : Interleaving) (added : List Log.Record)
    (raised : List String) : Prop where
  notes : w'.session.notes = w.session.notes ++ added
  alerts : w'.session.panel.alerts = w.session.panel.alerts ++ raised
  endpoint : w'.session.endpoint = w.session.endpoint
  move : w.Move sec w' added raised

/-- A section that adds nothing. -/
theorem adds_of_silent (hsec : ∀ message, sec ≠ .alert message) (h : w.session.Silent w'.session)
    (hstanding : ∀ id, w'.session.standing? id = w.session.standing? id ∨
      w.session.standing? id = none ∧ ∃ m, w'.session.standing? id = some (m, .idle)) :
    w.Adds sec w' [] [] :=
  ⟨h.notes.trans (List.append_nil _).symm, h.alerts.trans (List.append_nil _).symm, h.endpoint,
    .silent hsec hstanding⟩

theorem adds_proceed (hl : w.Launchable) {i : Nat} {g : Stage} (hg : w.calls[i]? = some g)
    (hret : g ≠ .returned) :
    ∃ notes alerts, w.Adds (.proceed i) { w.setSession (w.session.proceed g).1 with
      calls := w.calls.set i (w.session.proceed g).2 } notes alerts := by
  cases g with
  | returned => exact absurd rfl hret
  | marked c =>
    exact ⟨[], [], adds_of_silent nofun (Session.silent_proceed_marked _ c)
      (Session.standing?_proceed_marked _ c)⟩
  | replaced n k previous =>
    exact ⟨[], [], adds_of_silent nofun (Session.silent_clear _ previous) fun id =>
      .inl (Session.standing?_clear _ previous id)⟩
  | cleared n k =>
    have hi : w.launching i = some (n, k) := by rw [launching, hg]; rfl
    have hidle := hl i n k hi
    refine ⟨_, [], rfl, (List.append_nil _).symm, rfl, .launch i n k rfl ?_ hidle fun j => ?_⟩
    · rw [subject, awaited_eq_launching, hi]
      rfl
    · refine (Session.standing?_launch _ n k j).trans ?_
      split
      · rename_i hj
        rw [← hj, hidle]
        rfl
      · rfl

theorem adds_step (hw : w.Kept) (h : w.step sec = some w') :
    ∃ notes alerts, w.Adds sec w' notes alerts := by
  cases sec with
  | mark c =>
    cases h
    exact ⟨[], [], adds_of_silent nofun (Session.silent_mark _ _) fun _ => .inl rfl⟩
  | proceed i =>
    obtain ⟨g, hg, hret, rfl⟩ := step_proceed h
    exact adds_proceed hw.launchable hg hret
  | task k =>
    obtain ⟨hadv, _⟩ := step_task h
    by_cases hfin : ∃ id, k = .finish id
    · obtain ⟨id, rfl⟩ := hfin
      obtain ⟨m, st, notes, hst, hends, hcloses⟩ := Traffic.closes_of_advance hw.sound hadv
      refine ⟨notes, _, hcloses.notes, hcloses.alerts, hcloses.endpoint,
        .finish id m st notes rfl hst hcloses.ending fun j => ?_⟩
      refine (hends.standing?_eq j).trans ?_
      split
      · rename_i hj
        rw [← hj, hst]
        rfl
      · rfl
    · have hsame : w'.session = w.session :=
        Traffic.session_advance hadv fun id hk => hfin ⟨id, hk⟩
      refine ⟨[], [], adds_of_silent nofun ?_ fun id => .inl ?_⟩
      · rw [hsame]
        exact ⟨rfl, rfl, rfl⟩
      · rw [hsame]
  | alert message =>
    cases h
    exact ⟨[], [message], (List.append_nil _).symm, rfl, rfl, .alert message rfl fun _ => rfl⟩

/-! ## What a section is to one submission -/

/-- What a section is to one submission, with the notes and the alerts that it adds for it: it
leaves it alone, enrols it, launches it or ends it. -/
inductive Fate (w w' : Interleaving) (id : Nat) : List Log.Record → List String → Prop
  | unmoved (h : w'.session.standing? id = w.session.standing? id) : Fate w w' id [] []
  | enrolled (m : Mode) (hold : w.session.standing? id = none)
      (hnew : w'.session.standing? id = some (m, .idle)) : Fate w w' id [] []
  | launched (m : Mode) (hold : w.session.standing? id = some (m, .idle))
      (hnew : w'.session.standing? id = some (m, .submitted)) :
      Fate w w' id [Session.submittedNote w.session.endpoint m] []
  | ended (m : Mode) (st : SubmissionState) (notes : List Log.Record)
      (hold : w.session.standing? id = some (m, .submitted))
      (hnew : w'.session.standing? id = some (m, st)) (hending : Session.Ending m st notes) :
      Fate w w' id notes (if st = .alerted then [Panel.alertMessage] else [])

theorem Adds.fate {added : List Log.Record} {raised : List String}
    (h : w.Adds sec w' added raised) (id : Nat) :
    w.Fate w' id (if w.subject sec = some id then added else [])
      (if w.subject sec = some id then raised else []) := by
  have helse : w.subject sec ≠ some id → w'.session.standing? id = w.session.standing? id →
      w.Fate w' id (if w.subject sec = some id then added else [])
        (if w.subject sec = some id then raised else []) := by
    intro hne hsame
    rw [if_neg hne, if_neg hne]
    exact .unmoved hsame
  cases h.move with
  | silent hsec hstanding =>
    rw [ite_self, ite_self]
    obtain hsame | ⟨hnone, m, hidle⟩ := hstanding id
    · exact .unmoved hsame
    · exact .enrolled m hnone hidle
  | alert message hsec hstanding =>
    refine helse ?_ (hstanding id)
    rw [hsec]
    nofun
  | launch i n m hsec hsubject hidle hstanding =>
    by_cases hn : n = id
    · subst hn
      rw [if_pos hsubject, if_pos hsubject]
      exact .launched m hidle ((hstanding n).trans (if_pos rfl))
    · refine helse ?_ ((hstanding id).trans (if_neg hn))
      rw [hsubject]
      exact fun he => hn (Option.some_inj.mp he)
  | finish n m st notes hsec hsubmitted hending hstanding =>
    have hsubject : w.subject sec = some n := by rw [hsec]; rfl
    by_cases hn : n = id
    · subst hn
      rw [if_pos hsubject, if_pos hsubject]
      exact .ended m st added hsubmitted ((hstanding n).trans (if_pos rfl)) hending
    · refine helse ?_ ((hstanding id).trans (if_neg hn))
      rw [hsubject]
      exact fun he => hn (Option.some_inj.mp he)

end Interleaving

end TaintClient

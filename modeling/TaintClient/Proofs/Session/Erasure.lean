/-
  Runs without their superseded submissions. Erasing a submission takes its call, its answer and
  its last section out of a run; those that are kept are numbered anew. While a session that
  cancels runs with and without the erased submissions, the kept ones are at the same place and the
  alerts are the same. The regions may differ only on a plain page, and only until the next
  submission marks it, which it does since the newest one is kept. So at the end both pages are
  equal.
-/
import TaintClient.Proofs.Session.LabelCount

namespace TaintClient

/-! ## Numbers -/

/-- The new number of a submission: how many of those before it are kept. -/
def rank (gone : Nat → Bool) (id : Nat) : Nat := (List.range id).countP fun i => !gone i

section Rank

variable {gone : Nat → Bool} {i j n : Nat}

theorem rank_succ_of_gone (h : gone n = true) : rank gone (n + 1) = rank gone n := by
  unfold rank
  rw [List.range_succ, List.countP_append, List.countP_singleton, h]
  rfl

theorem rank_succ_of_kept (h : gone n = false) : rank gone (n + 1) = rank gone n + 1 := by
  unfold rank
  rw [List.range_succ, List.countP_append, List.countP_singleton, h]
  rfl

theorem rank_mono (h : i ≤ j) : rank gone i ≤ rank gone j :=
  (List.range_sublist.mpr h).countP_le

theorem rank_lt (hi : gone i = false) (h : i < j) : rank gone i < rank gone j := by
  have hle : rank gone (i + 1) ≤ rank gone j := rank_mono h
  rw [rank_succ_of_kept hi] at hle
  exact hle

/-- No two kept submissions get the same number. -/
theorem rank_inj (hi : gone i = false) (hj : gone j = false) :
    rank gone i = rank gone j ↔ i = j := by
  refine ⟨fun h => ?_, fun h => by rw [h]⟩
  rcases Nat.lt_trichotomy i j with hlt | heq | hgt
  · have := rank_lt hi hlt
    omega
  · exact heq
  · have := rank_lt hj hgt
    omega

/-- Every new number is that of a kept submission. -/
theorem exists_rank_eq (h : j < rank gone n) : ∃ i < n, gone i = false ∧ rank gone i = j := by
  induction n with
  | zero => exact absurd h (Nat.not_lt_zero j)
  | succ n ih =>
    by_cases hlt : j < rank gone n
    · obtain ⟨i, hi, hkept, hrank⟩ := ih hlt
      exact ⟨i, by omega, hkept, hrank⟩
    · cases hn : gone n with
      | true =>
        rw [rank_succ_of_gone hn] at h
        exact absurd h hlt
      | false =>
        rw [rank_succ_of_kept hn] at h
        exact ⟨n, Nat.lt_succ_self n, hn, by omega⟩

end Rank

/-! ## Erasing -/

/-- A step of a task whose submission has another number. -/
def TaskStep.renumber (f : Nat → Nat) : TaskStep → TaskStep
  | .answer id result => .answer (f id) result
  | .wake id branch => .wake (f id) branch
  | .finish id => .finish (f id)

/-- A run without the submissions that are gone, from where `n` were dispatched. -/
def erase (gone : Nat → Bool) : Nat → List Event → List Event
  | _, [] => []
  | n, .call c :: events =>
    if c.dispatches then
      if gone n then erase gone (n + 1) events else .call c :: erase gone (n + 1) events
    else .call c :: erase gone n events
  | n, .task k :: events =>
    if gone k.id then erase gone n events
    else .task (k.renumber (rank gone)) :: erase gone n events
  | n, .alert message :: events => .alert message :: erase gone n events

namespace Traffic

variable {p p' q t : Traffic} {gone : Nat → Bool} {c : Call} {k : TaskStep} {id : Nat}
  {events : List Event}

/-- A session and the same session without the submissions that are gone. -/
structure Erases (gone : Nat → Bool) (p q : Traffic) : Prop where
  length : q.session.submissions.length = rank gone p.session.submissions.length
  request : ∀ id, gone id = false → q.session.request? (rank gone id) = p.session.request? id
  state : ∀ id, gone id = false → q.session.state? (rank gone id) = p.session.state? id
  tasks : ∀ id, gone id = false → q.tasks (rank gone id) = p.tasks id
  variant : q.session.panel.variant = p.session.panel.variant
  alerts : q.session.panel.alerts = p.session.panel.alerts
  /-- The regions are equal, or the page was marked last for a submission that is gone. -/
  region : q.session.panel.region = p.session.panel.region ∨
    (p.session.panel.variant = .plain ∧
      ∃ n, n + 1 = p.session.submissions.length ∧ gone n = true)

theorem erases_start (gone : Nat → Bool) (endpoint : Url) (policy : ResubmitPolicy)
    (panel : Panel) :
    (start endpoint policy panel).Erases gone (start endpoint policy panel) where
  length := rfl
  request _ _ := rfl
  state _ _ := rfl
  tasks _ _ := rfl
  variant := rfl
  alerts := rfl
  region := Or.inl rfl

/-! ## Calls -/

/-- On a report page the regions never differ. -/
theorem Erases.region_of_report (h : p.Erases gone q) (hv : p.session.panel.variant = .report) :
    q.session.panel.region = p.session.panel.region := by
  obtain heq | ⟨hplain, _⟩ := h.region
  · exact heq
  · rw [hv] at hplain
    cases hplain

/-- A call marks both pages; so whatever they showed before, they show the same. -/
theorem Erases.region_call (h : p.Erases gone q) (c : Call) :
    (q.session.call c).panel.region = (p.session.call c).panel.region := by
  rw [Session.region_call, Session.region_call, Panel.region_start, Panel.region_start, h.variant]
  cases hv : p.session.panel.variant with
  | plain => rfl
  | report => exact h.region_of_report hv

theorem erases_call_of_error (h : p.Erases gone q) {e : String} (hc : c.request = .error e) :
    Erases gone { p with session := p.session.call c } { q with session := q.session.call c } where
  length := by
    rw [Session.submissions_call_of_error hc, Session.submissions_call_of_error hc]
    exact h.length
  request id hid := by
    rw [Session.request?_call_of_error hc, Session.request?_call_of_error hc]
    exact h.request id hid
  state id hid := by
    unfold Session.state?
    rw [Session.submissions_call_of_error hc, Session.submissions_call_of_error hc]
    exact h.state id hid
  tasks := h.tasks
  variant := by
    rw [Session.variant_call, Session.variant_call]
    exact h.variant
  alerts := by
    rw [Session.alerts_call, Session.alerts_call]
    exact h.alerts
  region := Or.inl (h.region_call c)

theorem length_call_of_ok {r : Request} (hc : c.request = .ok r) (s : Session) :
    (s.call c).submissions.length = s.submissions.length + 1 := by
  rw [Session.length_call]
  simp only [Call.dispatches, hc, if_true]

theorem state?_call_of_ok {r : Request} (hc : c.request = .ok r) (s : Session) (id : Nat) :
    (s.call c).state? id =
      if id = s.submissions.length then some .submitted else s.state? id := by
  rw [Session.state?_call]
  simp only [Call.dispatches, hc, true_and]

/-- A kept submission is dispatched in both runs. -/
theorem erases_call_of_kept (h : p.Erases gone q) {r : Request} (hc : c.request = .ok r)
    (hkept : gone p.session.submissions.length = false) :
    Erases gone { p with session := p.session.call c } { q with session := q.session.call c } where
  length := by
    rw [length_call_of_ok hc, length_call_of_ok hc, rank_succ_of_kept hkept, h.length]
  request id hid := by
    rw [Session.request?_call_of_ok hc, Session.request?_call_of_ok hc, h.length, h.request id hid]
    simp only [rank_inj hid hkept]
  state id hid := by
    rw [state?_call_of_ok hc, state?_call_of_ok hc, h.length, h.state id hid]
    simp only [rank_inj hid hkept]
  tasks := h.tasks
  variant := by
    rw [Session.variant_call, Session.variant_call]
    exact h.variant
  alerts := by
    rw [Session.alerts_call, Session.alerts_call]
    exact h.alerts
  region := Or.inl (h.region_call c)

/-- A submission that is gone is dispatched in one run only, and may leave its mark there. -/
theorem erases_call_of_gone (h : p.Erases gone q) {r : Request} (hc : c.request = .ok r)
    (hgone : gone p.session.submissions.length = true) :
    Erases gone { p with session := p.session.call c } q where
  length := by
    rw [length_call_of_ok hc, rank_succ_of_gone hgone, h.length]
  request id hid := by
    rw [Session.request?_call_of_ok hc, if_neg, h.request id hid]
    rintro rfl
    rw [hgone] at hid
    cases hid
  state id hid := by
    rw [state?_call_of_ok hc, if_neg, h.state id hid]
    rintro rfl
    rw [hgone] at hid
    cases hid
  tasks := h.tasks
  variant := by
    rw [Session.variant_call]
    exact h.variant
  alerts := by
    rw [Session.alerts_call]
    exact h.alerts
  region := by
    rw [Session.variant_call]
    cases hv : p.session.panel.variant with
    | plain => exact Or.inr ⟨rfl, _, (length_call_of_ok hc p.session).symm, hgone⟩
    | report =>
      refine Or.inl ?_
      rw [Session.region_call, Panel.region_start, hv]
      exact h.region_of_report hv

/-! ## Task steps -/

/-- A step of one task leaves the others alone. -/
theorem tasks_advance_of_ne (h : p.advance k = some p') (hid : id ≠ k.id) :
    p'.tasks id = p.tasks id := by
  cases k with
  | finish j =>
    simp only [advance] at h
    split at h <;> cases h
    rfl
  | _ =>
    simp only [advance] at h
    split at h <;> cases h
    exact Function.update_of_ne hid _ _

/-- A step for a submission that is gone; its last section supersedes it. -/
theorem erases_task_of_gone (h : p.Erases gone q) (hs : p.Sound) (hk : p.advance k = some p')
    (hgone : gone k.id = true)
    (hfin : ∀ id, k = .finish id → p.session.isCancelled id = true) : Erases gone p' q := by
  have htasks : ∀ id, gone id = false → q.tasks (rank gone id) = p'.tasks id := by
    intro id hid
    rw [h.tasks id hid, tasks_advance_of_ne hk]
    rintro rfl
    rw [hgone] at hid
    cases hid
  by_cases hne : ∀ id, k ≠ .finish id
  · have hsame : p'.session = p.session := session_advance hk hne
    obtain ⟨_, _⟩ := p'
    cases hsame
    exact ⟨h.length, h.request, h.state, htasks, h.variant, h.alerts, h.region⟩
  · obtain ⟨id, rfl⟩ : ∃ id, k = .finish id := by simpa using hne
    obtain ⟨sub, hsub, _, _, ⟨_, he⟩ | ⟨hc, _⟩⟩ := advance_finish hs hk
    · have hends : p.session.Ends id sub.request.mode .superseded p'.session := by
        rw [he]
        exact Session.ends_supersede _ _ _
      constructor
      · rw [hends.length_eq]
        exact h.length
      · intro j hj
        rw [hends.request?_eq]
        exact h.request j hj
      · intro j hj
        rw [hends.state?_eq, if_neg]
        · exact h.state j hj
        · rintro rfl
          rw [show gone id = true from hgone] at hj
          cases hj
      · exact htasks
      · rw [hends.variant]
        exact h.variant
      · rw [he]
        exact h.alerts.trans (Panel.alerts_release _ _).symm
      · rw [hends.variant, hends.length_eq, he]
        show _ = (p.session.panel.release _).region ∨ _
        rw [Panel.region_release]
        exact h.region
    · -- a submission that was not cancelled would not be gone
      have hcan := hfin id rfl
      simp [Session.isCancelled, hsub, hc] at hcan

theorem Erases.setTask (h : p.Erases gone q) (hid : gone id = false) (k : Task) :
    Erases gone (p.setTask id k) (q.setTask (rank gone id) k) where
  length := h.length
  request := h.request
  state := h.state
  tasks j hj := by
    by_cases hji : j = id
    · subst hji
      show Function.update q.tasks (rank gone j) k (rank gone j) = Function.update p.tasks j k j
      rw [Function.update_self, Function.update_self]
    · have hne : rank gone j ≠ rank gone id := fun he => hji ((rank_inj hj hid).mp he)
      refine (Function.update_of_ne hne _ _).trans ?_
      exact (h.tasks j hj).trans (Function.update_of_ne hji _ _).symm
  variant := h.variant
  alerts := h.alerts
  region := h.region

/-- What came of a kept submission is applied in both runs. -/
theorem Erases.apply (h : p.Erases gone q) {m : Mode} (hid : gone id = false)
    (hnewest : id + 1 = p.session.submissions.length) (result : Except Failure Response) :
    Erases gone { p with session := p.session.apply id m result }
      { q with session := q.session.apply (rank gone id) m result } := by
  have hp := Session.ends_apply p.session id m result
  have hq := Session.ends_apply q.session (rank gone id) m result
  have hregion : q.session.panel.region = p.session.panel.region := by
    obtain heq | ⟨_, n, hn, hgone⟩ := h.region
    · exact heq
    · -- the page was marked last for a kept submission
      obtain rfl : n = id := by omega
      rw [hid] at hgone
      cases hgone
  constructor
  · rw [hq.length_eq, hp.length_eq]
    exact h.length
  · intro j hj
    rw [hq.request?_eq, hp.request?_eq]
    exact h.request j hj
  · intro j hj
    rw [hq.state?_eq, hp.state?_eq, h.state j hj]
    simp only [rank_inj hid hj]
  · exact h.tasks
  · rw [hq.variant, hp.variant]
    exact h.variant
  · show (q.session.panel.finish m result).2.1.alerts = (p.session.panel.finish m result).2.1.alerts
    rw [Panel.alerts_finish, Panel.alerts_finish, h.alerts]
  · refine Or.inl ?_
    show (q.session.panel.finish m result).2.1.region = (p.session.panel.finish m result).2.1.region
    rw [Panel.region_finish, Panel.region_finish, hregion]

variable {policy : ResubmitPolicy}

/-- The last section of a kept submission that is not cancelled; it is the newest, and so it is
with its new number. -/
theorem erases_finish_of_kept (h : p.Erases gone q) (hp : p.Kept .cancelPrevious)
    (hq : q.Kept .cancelPrevious) (hk : p.advance (.finish id) = some p')
    (hid : gone id = false) (hcan : p.session.isCancelled id = false) :
    ∃ q', q.advance (.finish (rank gone id)) = some q' ∧ Erases gone p' q' := by
  have hst : p.session.state? id = some .submitted := state?_of_advance hk
  have hnewest : id + 1 = p.session.submissions.length := by
    have hlt := Session.lt_length_of_state? hst
    have hc := (hp.inOrder rfl).cancelled id
    rw [hcan] at hc
    simp only [Bool.false_eq_true, false_iff] at hc
    omega
  obtain ⟨q', hq'⟩ : ∃ q', q.advance (.finish (rank gone id)) = some q' := by
    simp only [advance] at hk ⊢
    split at hk
    · rename_i hc
      exact ⟨_, if_pos ⟨(h.state id hid).trans hst, by rw [h.tasks id hid]; exact hc.2⟩⟩
    · cases hk
  refine ⟨q', hq', ?_⟩
  obtain ⟨sub, hsub, _, htasks, ⟨hc, _⟩ | ⟨_, result, hres, he⟩⟩ := advance_finish hp.sound hk
  · simp [Session.isCancelled, hsub, hc] at hcan
  · obtain ⟨sub', hsub', _, htasks', ⟨hc', _⟩ | ⟨_, result', hres', he'⟩⟩ :=
      advance_finish hq.sound hq'
    · have hcan' := (hq.inOrder rfl).cancelled (rank gone id)
      simp only [Session.isCancelled, hsub', Option.any_some, hc', true_iff] at hcan'
      rw [h.length, ← hnewest, rank_succ_of_kept hid] at hcan'
      omega
    · have hmode : sub'.request = sub.request := by
        have hr := h.request id hid
        unfold Session.request? at hr
        rw [hsub, hsub'] at hr
        exact Option.some_inj.mp hr
      obtain rfl : result' = result := by
        rw [h.tasks id hid, hres] at hres'
        exact (Option.some_inj.mp hres').symm
      rw [hmode] at he'
      have happ := h.apply (m := sub.request.mode) hid hnewest result'
      rw [← he, ← he'] at happ
      obtain ⟨_, _⟩ := p'
      obtain ⟨_, _⟩ := q'
      cases htasks
      cases htasks'
      exact happ

theorem erases_task_of_kept (h : p.Erases gone q) (hp : p.Kept .cancelPrevious)
    (hq : q.Kept .cancelPrevious) (hk : p.advance k = some p') (hid : gone k.id = false)
    (hcan : p.session.isCancelled k.id = false) :
    ∃ q', q.advance (k.renumber (rank gone)) = some q' ∧ Erases gone p' q' := by
  have hst : q.session.state? (rank gone k.id) = some .submitted :=
    (h.state k.id hid).trans (state?_of_advance hk)
  cases k with
  | answer id result =>
    have htask : q.tasks (rank gone id) = p.tasks id := h.tasks id hid
    simp only [advance] at hk
    split at hk <;> cases hk
    rename_i hc
    refine ⟨q.setTask (rank gone id) { p.tasks id with answer := some result }, ?_,
      h.setTask hid _⟩
    simp only [TaskStep.renumber, advance, htask]
    exact if_pos ⟨hst, hc.2⟩
  | wake id branch =>
    have htask : q.tasks (rank gone id) = p.tasks id := h.tasks id hid
    simp only [advance] at hk
    split at hk <;> cases hk
    rename_i hc
    have hready : q.isReady (rank gone id) branch = true := by
      cases branch with
      | cancelled => exact absurd (hc.2.2.symm.trans hcan) (by simp)
      | answered =>
        simp only [isReady, htask]
        exact hc.2.2
    refine ⟨q.setTask (rank gone id) { p.tasks id with branch := some branch }, ?_,
      h.setTask hid _⟩
    simp only [TaskStep.renumber, advance, htask]
    exact if_pos ⟨hst, hc.2.1, hready⟩
  | finish id => exact erases_finish_of_kept h hp hq hk hid hcan

/-! ## What is to come -/

/-- A submission that is cancelled while it is under way is superseded in the end. -/
theorem superseded_of_isCancelled (hs : p.Sound) (h : p.run events = some t)
    (hend : ∀ sub ∈ t.session.submissions, sub.state.isTerminal = true)
    (hst : p.session.state? id = some .submitted) (hc : p.session.isCancelled id = true) :
    t.session.state? id = some .superseded := by
  have hlt : id < t.session.submissions.length := by
    rw [length_of_run_of_sound hs h]
    exact Nat.lt_add_right _ (Session.lt_length_of_state? hst)
  have hterm := hend _ (List.getElem_mem hlt)
  have hstate := Session.state?_of_getElem? (List.getElem?_eq_getElem hlt)
  obtain hbefore | ⟨pre, post, u, v, _, hu, hv, hstop⟩ := (ended_iff hs h hterm).mp hstate
  · rw [hst] at hbefore
    rw [← Option.some_inj.mp hbefore] at hterm
    cases hterm
  · have hsup := (superseded_of_finish (sound_run hs hu) hv).mpr (isCancelled_run hs hu hc)
    rw [hstate, ← hstop, hsup]

/-- A submission that is superseded in the end was cancelled when its last section ran. -/
theorem isCancelled_of_superseded (hs : p.Sound) (hp' : p.step (.task (.finish id)) = some p')
    (h : p'.run events = some t) (hsup : t.session.state? id = some .superseded) :
    p.session.isCancelled id = true := by
  obtain ⟨sub, st, hf⟩ := finishes_of_advance hs hp'
  have hlast : t.session.state? id = some st :=
    (ended_iff (sound_step hs hp') h hf.terminal).mpr (Or.inl hf.state?_eq)
  rw [hsup] at hlast
  exact (superseded_of_finish hs hp').mp (hf.state?_eq.trans hlast.symm)

/-! ## Runs -/

theorem erases_run (hgone : ∀ id, gone id = true ↔ t.session.state? id = some .superseded)
    (hend : ∀ sub ∈ t.session.submissions, sub.state.isTerminal = true)
    (hp : p.Kept .cancelPrevious) (hq : q.Kept .cancelPrevious) (h : p.Erases gone q)
    (hrun : p.run events = some t) :
    ∃ u, q.run (erase gone p.session.submissions.length events) = some u ∧ t.Erases gone u := by
  induction events generalizing p q with
  | nil =>
    cases hrun
    exact ⟨q, rfl, h⟩
  | cons e events ih =>
    obtain ⟨p', hp', hrest⟩ := Steps.run_cons_eq_some.mp hrun
    have hkept' := kept_step hp hp'
    have hlen := length_step hp.sound hp'
    -- both runs go on with this event
    have both : ∀ e' q', q.step e' = some q' → Erases gone p' q' →
        ∃ u, q.run (e' :: erase gone p'.session.submissions.length events) = some u ∧
          t.Erases gone u := by
      intro e' q' hq' h'
      obtain ⟨u, hu, htu⟩ := ih hkept' (kept_step hq hq') h' hrest
      exact ⟨u, Steps.run_cons_eq_some.mpr ⟨q', hq', hu⟩, htu⟩
    cases e with
    | alert message =>
      have ha := both (.alert message) { q with session := q.session.alert message } rfl
      cases hp'
      refine ha ⟨h.length, h.request, h.state, h.tasks, h.variant, ?_, h.region⟩
      exact congrArg (· ++ [message]) h.alerts
    | call c =>
      have hb := both (.call c) { q with session := q.session.call c } rfl
      cases hc : c.request with
      | error e =>
        have hd : c.dispatches = false := by simp only [Call.dispatches, hc]
        simp only [Event.dispatches, hd, Bool.false_eq_true, if_false, Nat.add_zero] at hlen
        simp only [erase, hd, Bool.false_eq_true, if_false]
        rw [← hlen]
        cases hp'
        exact hb (erases_call_of_error h hc)
      | ok r =>
        have hd : c.dispatches = true := by simp only [Call.dispatches, hc]
        simp only [Event.dispatches, hd, if_true] at hlen
        simp only [erase, hd, if_true]
        rw [← hlen]
        cases hg : gone p.session.submissions.length with
        | true =>
          rw [if_pos rfl]
          cases hp'
          exact ih hkept' hq (erases_call_of_gone h hc hg) hrest
        | false =>
          rw [if_neg Bool.false_ne_true]
          cases hp'
          exact hb (erases_call_of_kept h hc hg)
    | task k =>
      simp only [Event.dispatches, Bool.false_eq_true, if_false, Nat.add_zero] at hlen
      simp only [erase]
      rw [← hlen]
      cases hg : gone k.id with
      | true =>
        rw [if_pos rfl]
        refine ih hkept' hq (erases_task_of_gone h hp.sound hp' hg fun id hid => ?_) hrest
        subst hid
        exact isCancelled_of_superseded hp.sound hp' hrest ((hgone id).mp hg)
      | false =>
        rw [if_neg Bool.false_ne_true]
        have hcan : p.session.isCancelled k.id = false := by
          by_contra hc
          rw [Bool.not_eq_false] at hc
          have hsup := superseded_of_isCancelled hp.sound hrun hend (state?_of_advance hp') hc
          rw [(hgone k.id).mpr hsup] at hg
          cases hg
        obtain ⟨q', hq', h'⟩ := erases_task_of_kept h hp hq hp' hg hcan
        exact both _ q' hq' h'

/-- Whether a submission ended superseded. -/
def isSuperseded (t : Traffic) (id : Nat) : Bool :=
  decide (t.session.state? id = some .superseded)

variable {endpoint : Url} {panel : Panel}

/-- Every submission of the erased run is at its end if every one of the whole run is. -/
theorem Erases.isTerminal (h : t.Erases gone q)
    (hend : ∀ sub ∈ t.session.submissions, sub.state.isTerminal = true) :
    ∀ sub ∈ q.session.submissions, sub.state.isTerminal = true := by
  intro sub hsub
  obtain ⟨j, hj⟩ := List.mem_iff_getElem?.mp hsub
  have hlt : j < rank gone t.session.submissions.length := by
    rw [← h.length]
    exact (List.getElem?_eq_some_iff.mp hj).1
  obtain ⟨i, hi, hkept, rfl⟩ := exists_rank_eq hlt
  have hstate := h.state i hkept
  unfold Session.state? at hstate
  rw [hj, List.getElem?_eq_getElem hi] at hstate
  have hst : sub.state = t.session.submissions[i].state := Option.some_inj.mp hstate
  rw [hst]
  exact hend _ (List.getElem_mem hi)

/-- **Superseded submissions are invisible.** Where a session cancels, on either page, a run at
whose end every submission is at its end can do without those that were superseded: the run that
is left is not refused, ends with the same page, and brings every submission that is left, under
its new number, to the same state. -/
theorem exists_run_erase {variant : PageVariant} {labels : List (Mode × String)}
    (h : (start endpoint .cancelPrevious ((Panel.fresh variant).withLabels labels)).run events =
      some t)
    (hend : ∀ sub ∈ t.session.submissions, sub.state.isTerminal = true) :
    ∃ u, (start endpoint .cancelPrevious ((Panel.fresh variant).withLabels labels)).run
        (erase t.isSuperseded 0 events) = some u ∧
      u.session.panel = t.session.panel ∧
      u.session.submissions.length = rank t.isSuperseded t.session.submissions.length ∧
      ∀ id, t.session.state? id ≠ some .superseded →
        u.session.request? (rank t.isSuperseded id) = t.session.request? id ∧
        u.session.state? (rank t.isSuperseded id) = t.session.state? id := by
  have hgone : ∀ id, t.isSuperseded id = true ↔ t.session.state? id = some .superseded :=
    fun id => decide_eq_true_iff
  have hstart := kept_start endpoint .cancelPrevious ((Panel.fresh variant).withLabels labels)
  have hrest := Panel.atRest_withLabels (Panel.atRest_fresh variant) labels
  obtain ⟨u, hu, hsim⟩ := erases_run hgone hend hstart hstart (erases_start _ _ _ _) h
  refine ⟨u, hu, Panel.eq_of_views hsim.variant ?_ (fun m => ?_) hsim.alerts, hsim.length,
    fun id hid => ?_⟩
  · obtain heq | ⟨_, n, hn, hsup⟩ := hsim.region
    · exact heq
    · have hlt := lt_of_superseded h ((hgone n).mp hsup)
      omega
  · rw [Interleaving.label_of_finished hrest h hend,
      Interleaving.label_of_finished hrest hu (hsim.isTerminal hend)]
  · have hkept : t.isSuperseded id = false := by
      rw [← Bool.not_eq_true, hgone]
      exact hid
    exact ⟨hsim.request id hkept, hsim.state id hkept⟩

/-- The run in which the second submission overtakes the first, without the first. -/
theorem panel_eq_overtakenRun :
    ∃ t u, (start { scheme := "http", path := .rooted [] } .cancelPrevious
        ((Panel.fresh .report).withLabels [(.bytecode, "Check")])).run overtakenRun = some t ∧
      (start { scheme := "http", path := .rooted [] } .cancelPrevious
        ((Panel.fresh .report).withLabels [(.bytecode, "Check")])).run
          [.call (.submitForm .bytecode .empty), .call (.submitAnalysis .bytecode "b" ""),
            .task (.answer 0 (.ok { data := "new" })), .task (.wake 0 .answered),
            .task (.finish 0)] = some u ∧
      u.session.panel = t.session.panel ∧
      u.session.state? 0 = some .rendered := by
  obtain ⟨t, h, hsubs, h0, h1⟩ : ∃ t, (start { scheme := "http", path := .rooted [] }
      .cancelPrevious ((Panel.fresh .report).withLabels [(.bytecode, "Check")])).run
        overtakenRun = some t ∧
      t.session.submissions.all (·.state.isTerminal) = true ∧
      t.session.state? 0 = some .superseded ∧ t.session.state? 1 = some .rendered :=
    ⟨_, rfl, rfl, rfl, rfl⟩
  obtain ⟨u, hu, hpanel, _, hstate⟩ := exists_run_erase h (List.all_eq_true.mp hsubs)
  have g0 : t.isSuperseded 0 = true := by simp [isSuperseded, h0]
  have g1 : t.isSuperseded 1 = false := by simp [isSuperseded, h1]
  have hrank : rank t.isSuperseded 1 = 0 := rank_succ_of_gone g0
  have hkept := (hstate 1 (by simp [h1])).2
  rw [hrank, h1] at hkept
  have hfirst : (Call.submit ⟨.solidity, "a", "", none⟩).dispatches = true := rfl
  have hform : (Call.submitForm .bytecode .empty).dispatches = false := rfl
  have hsecond : (Call.submitAnalysis .bytecode "b" "").dispatches = true := rfl
  refine ⟨t, u, h, ?_, hpanel, hkept⟩
  rw [← hu]
  simp [overtakenRun, erase, hfirst, hform, hsecond, TaskStep.id, TaskStep.renumber, g0, g1, hrank]

end Traffic

end TaintClient

/-
  Which submissions are superseded. Where a session cancels, the place in flight is the newest
  submission's, and no other submission is uncancelled; so a submission ends superseded exactly
  when a newer one was dispatched before its last section ran. Whether its answer had arrived, and
  what its task stopped waiting for, does not matter. A call whose form lacks an element supersedes
  nothing, and neither does anything where the last response wins.
-/
import TaintClient.Proofs.Session.Traffic

namespace TaintClient

namespace Traffic

variable {t t' : Traffic} {e : Event} {id : Nat} {endpoint : Url} {policy : ResubmitPolicy}
  {panel : Panel} {events : List Event}

/-! ## What an event does -/

theorem length_step (ht : t.Sound) (h : t.step e = some t') :
    t'.session.submissions.length =
      t.session.submissions.length + if e.dispatches then 1 else 0 := by
  cases e with
  | call c =>
    cases h
    exact Session.length_call _ c
  | alert message =>
    cases h
    rfl
  | task k =>
    obtain ⟨_, hs⟩ | ⟨_, _, _, rfl, hf⟩ := advance_cases ht h
    · rw [hs]
      rfl
    · exact hf.ends.length_eq

/-- Only its own last section brings a submission to its end, and nothing brings it back. -/
theorem state?_step (ht : t.Sound) (h : t.step e = some t') (hne : e ≠ .task (.finish id))
    {st : SubmissionState} (hst : st.isTerminal = true) :
    t'.session.state? id = some st ↔ t.session.state? id = some st := by
  cases e with
  | call c =>
    cases h
    rw [Session.state?_call]
    split
    · rename_i hc
      rw [hc.2, Session.state?_eq_none_of_length_le (Nat.le_refl _), Option.some_inj]
      constructor
      · rintro rfl
        cases hst
      · intro hn
        cases hn
    · rfl
  | alert message =>
    cases h
    rfl
  | task k =>
    obtain ⟨_, hs⟩ | ⟨_, _, _, rfl, hf⟩ := advance_cases ht h
    · rw [hs]
    · rw [hf.ends.state?_eq, if_neg]
      rintro rfl
      exact hne rfl

/-- A last section supersedes its submission exactly if it is cancelled. -/
theorem superseded_of_finish (ht : t.Sound) (h : t.step (.task (.finish id)) = some t') :
    t'.session.state? id = some .superseded ↔ t.session.isCancelled id = true := by
  obtain ⟨sub, st, hf⟩ := finishes_of_advance ht h
  rw [hf.state?_eq, Option.some_inj, hf.superseded]
  simp [Session.isCancelled, hf.submission]

/-! ## What a run keeps -/

theorem sound_step (ht : t.Sound) (h : t.step e = some t') : t'.Sound := by
  cases e with
  | call c =>
    cases h
    exact ht.of_session fun id hc => Session.isCancelled_call hc c
  | alert message =>
    cases h
    exact ht.of_session fun _ hc => hc
  | task k => exact sound_advance ht h

/-- No event takes a cancellation back. -/
theorem isCancelled_step (ht : t.Sound) (h : t.step e = some t')
    (hc : t.session.isCancelled id = true) : t'.session.isCancelled id = true := by
  cases e with
  | call c =>
    cases h
    exact Session.isCancelled_call hc c
  | alert message =>
    cases h
    exact hc
  | task k =>
    obtain ⟨_, hs⟩ | ⟨_, _, _, rfl, hf⟩ := advance_cases ht h
    · rw [hs]
      exact hc
    · rw [hf.ends.isCancelled_eq]
      exact hc

theorem sound_run (ht : t.Sound) (h : t.run events = some t') : t'.Sound :=
  Steps.invariant_of_run (fun _ _ _ => sound_step) ht h

theorem isCancelled_run (ht : t.Sound) (h : t.run events = some t')
    (hc : t.session.isCancelled id = true) : t'.session.isCancelled id = true :=
  (Steps.invariant_of_run (P := fun u => u.Sound ∧ u.session.isCancelled id = true)
    (fun _ _ _ hu hv => ⟨sound_step hu.1 hv, isCancelled_step hu.1 hv hu.2⟩) ⟨ht, hc⟩ h).2

/-- What holds of a session with its tasks after every run. -/
structure Kept (policy : ResubmitPolicy) (t : Traffic) : Prop where
  sound : t.Sound
  policy_eq : t.session.policy = policy
  inOrder : policy = .cancelPrevious → t.session.InOrder
  uncancelled : policy = .lastResponseWins → ∀ id, t.session.isCancelled id = false

theorem kept_start (endpoint : Url) (policy : ResubmitPolicy) (panel : Panel) :
    (start endpoint policy panel).Kept policy :=
  ⟨sound_start endpoint policy panel, rfl, fun _ => Session.inOrder_fresh endpoint policy panel,
    fun _ _ => rfl⟩

theorem kept_step (ht : t.Kept policy) (h : t.step e = some t') : t'.Kept policy := by
  have hsound : t'.Sound := sound_step ht.sound h
  cases e with
  | call c =>
    cases h
    have hp := ht.policy_eq
    exact ⟨hsound, (Session.policy_call _ c).trans hp,
      fun hpol => Session.inOrder_call (hp.trans hpol) (ht.inOrder hpol) c,
      fun hpol => Session.isCancelled_call_eq_false (hp.trans hpol) (ht.uncancelled hpol) c⟩
  | alert message =>
    cases h
    exact ⟨hsound, ht.policy_eq,
      fun hpol => ⟨(ht.inOrder hpol).inFlight, (ht.inOrder hpol).cancelled⟩, ht.uncancelled⟩
  | task k =>
    obtain ⟨_, hs⟩ | ⟨_, _, _, rfl, hf⟩ := advance_cases ht.sound h
    · refine ⟨hsound, ?_, ?_, ?_⟩ <;> rw [hs]
      · exact ht.policy_eq
      · exact ht.inOrder
      · exact ht.uncancelled
    · refine ⟨hsound, hf.ends.policy.trans ht.policy_eq,
        fun hpol => (ht.inOrder hpol).ends hf.ends, ?_⟩
      intro hpol j
      rw [hf.ends.isCancelled_eq]
      exact ht.uncancelled hpol j

theorem kept_of_run (h : (start endpoint policy panel).run events = some t) : t.Kept policy :=
  Steps.invariant_of_run (fun _ _ _ => kept_step) (kept_start endpoint policy panel) h

theorem length_of_run_of_sound (ht : t.Sound) (h : t.run events = some t') :
    t'.session.submissions.length = t.session.submissions.length + dispatched events := by
  induction events generalizing t with
  | nil =>
    cases h
    rfl
  | cons e es ih =>
    obtain ⟨u, hu, hrun⟩ := Steps.run_cons_eq_some.mp h
    rw [ih (sound_step ht hu) hrun, length_step ht hu]
    unfold dispatched
    rw [List.countP_cons]
    omega

/-- Submissions are numbered in the order in which they are dispatched. -/
theorem length_of_run (h : (start endpoint policy panel).run events = some t) :
    t.session.submissions.length = dispatched events := by
  rw [length_of_run_of_sound (sound_start endpoint policy panel) h]
  exact Nat.zero_add _

/-! ## Where submissions end -/

/-- A submission is at its end after a run if it was before, or if its last section, which is run
once, brought it there. -/
theorem ended_iff (ht : t.Sound) (h : t.run events = some t') {st : SubmissionState}
    (hst : st.isTerminal = true) :
    t'.session.state? id = some st ↔ t.session.state? id = some st ∨
      ∃ pre post u v, events = pre ++ .task (.finish id) :: post ∧ t.run pre = some u ∧
        u.step (.task (.finish id)) = some v ∧ v.session.state? id = some st := by
  induction events generalizing t with
  | nil =>
    cases h
    simp
  | cons e es ih =>
    obtain ⟨w, hw, hrun⟩ := Steps.run_cons_eq_some.mp h
    rw [ih (sound_step ht hw) hrun]
    constructor
    · rintro (hend | ⟨pre, post, u, v, rfl, hu, hv, hend⟩)
      · by_cases he : e = .task (.finish id)
        · subst he
          exact Or.inr ⟨[], es, t, w, rfl, rfl, hw, hend⟩
        · exact Or.inl ((state?_step ht hw he hst).mp hend)
      · exact Or.inr ⟨e :: pre, post, u, v, rfl, Steps.run_cons_eq_some.mpr ⟨w, hw, hu⟩, hv, hend⟩
    · rintro (hend | ⟨pre, post, u, v, hsplit, hu, hv, hend⟩)
      · by_cases he : e = .task (.finish id)
        · -- a last section is run for a submission under way only
          subst he
          have hsub : t.session.state? id = some .submitted :=
            state?_of_advance (k := .finish id) hw
          rw [hsub] at hend
          cases hend
          cases hst
        · exact Or.inl ((state?_step ht hw he hst).mpr hend)
      · cases pre with
        | nil =>
          obtain ⟨rfl, rfl⟩ := List.cons.inj hsplit
          cases hu
          rw [hw] at hv
          cases hv
          exact Or.inl hend
        | cons d pre =>
          obtain ⟨rfl, rfl⟩ := List.cons.inj hsplit
          obtain ⟨w', hw', hu'⟩ := Steps.run_cons_eq_some.mp hu
          rw [hw] at hw'
          cases hw'
          exact Or.inr ⟨pre, post, u, v, rfl, hu', hv, hend⟩

/-- A submission ends superseded exactly if it was cancelled when its last section ran. -/
theorem superseded_iff_cancelled (h : (start endpoint policy panel).run events = some t) :
    t.session.state? id = some .superseded ↔
      ∃ pre post u, events = pre ++ .task (.finish id) :: post ∧
        (start endpoint policy panel).run pre = some u ∧ u.session.isCancelled id = true := by
  rw [ended_iff (sound_start endpoint policy panel) h rfl]
  constructor
  · rintro (hend | ⟨pre, post, u, v, rfl, hu, hv, hend⟩)
    · cases hend
    · exact ⟨pre, post, u, rfl, hu, (superseded_of_finish (kept_of_run hu).sound hv).mp hend⟩
  · rintro ⟨pre, post, u, rfl, hu, hc⟩
    obtain ⟨u', hu', hrest⟩ := Steps.run_append_eq_some.mp h
    obtain ⟨v, hv, _⟩ := Steps.run_cons_eq_some.mp hrest
    have : u' = u := Option.some_inj.mp (hu'.symm.trans hu)
    subst this
    exact Or.inr ⟨pre, post, u', v, rfl, hu, hv,
      (superseded_of_finish (kept_of_run hu).sound hv).mpr hc⟩

/-- The newest submission is not superseded. -/
theorem lt_of_superseded (h : (start endpoint .cancelPrevious panel).run events = some t)
    (hsup : t.session.state? id = some .superseded) : id + 1 < t.session.submissions.length := by
  obtain ⟨pre, post, u, rfl, hu, hc⟩ := (superseded_iff_cancelled h).mp hsup
  obtain ⟨u', hu', hrest⟩ := Steps.run_append_eq_some.mp h
  obtain rfl : u' = u := Option.some_inj.mp (hu'.symm.trans hu)
  have hcan := isCancelled_run (kept_of_run hu).sound hrest hc
  exact (((kept_of_run h).inOrder rfl).cancelled id).mp hcan

/-- A submission is at an end exactly if its last section ran. -/
theorem isTerminal_iff_finished (h : (start endpoint policy panel).run events = some t) :
    (∃ st, t.session.state? id = some st ∧ st.isTerminal = true) ↔
      .task (.finish id) ∈ events := by
  constructor
  · rintro ⟨st, hend, hst⟩
    obtain hnone | ⟨pre, post, _, _, rfl, _⟩ :=
      (ended_iff (sound_start endpoint policy panel) h hst).mp hend
    · cases hnone
    · simp
  · intro hmem
    obtain ⟨pre, post, rfl⟩ := List.append_of_mem hmem
    obtain ⟨u, hu, hrest⟩ := Steps.run_append_eq_some.mp h
    obtain ⟨v, hv, _⟩ := Steps.run_cons_eq_some.mp hrest
    obtain ⟨sub, st, hf⟩ := finishes_of_advance (kept_of_run hu).sound hv
    exact ⟨st, (ended_iff (sound_start endpoint policy panel) h hf.terminal).mpr
      (Or.inr ⟨pre, post, u, v, rfl, hu, hv, hf.state?_eq⟩), hf.terminal⟩

/-- **Supersession.** Where a session cancels, the place in flight is the newest submission's, and
it is the only one not cancelled; a submission ends superseded exactly if a newer one was
dispatched before its last section ran, whatever its answer and whatever its task stopped waiting
for; a call whose form lacks an element cancels nothing and leaves the place; and the newest
submission is not superseded. Where the last response wins, nothing is. -/
theorem superseded_iff_newer_dispatched
    (h : (start endpoint policy panel).run events = some t) :
    (policy = .cancelPrevious →
      (∀ id, t.session.inFlight = some id ↔ id + 1 = dispatched events) ∧
      (∀ id sub, t.session.submissions[id]? = some sub →
        (sub.isCancelled = false ↔ t.session.inFlight = some id)) ∧
      (∀ id, (∃ st, t.session.state? id = some st ∧ st.isTerminal = true) ↔
        .task (.finish id) ∈ events) ∧
      (∀ id, t.session.state? id = some .superseded ↔
        ∃ pre post, events = pre ++ .task (.finish id) :: post ∧ id + 1 < dispatched pre) ∧
      (∀ pre post m f why u v, events = pre ++ .call (.submitForm m f) :: post →
        (start endpoint policy panel).run pre = some u →
        (u.session.submitForm m f).2 = .error why → u.step (.call (.submitForm m f)) = some v →
        v.session.submissions = u.session.submissions ∧
          v.session.inFlight = u.session.inFlight) ∧
      (∀ id, id + 1 = dispatched events → t.session.state? id ≠ some .superseded)) ∧
    (policy = .lastResponseWins → ∀ id, t.session.state? id ≠ some .superseded) := by
  have hkept : t.Kept policy := kept_of_run h
  have hlen : t.session.submissions.length = dispatched events := length_of_run h
  refine ⟨fun hpol => ?_, fun hpol id hsup => ?_⟩
  · have hord : t.session.InOrder := hkept.inOrder hpol
    have hiff : ∀ id, t.session.state? id = some .superseded ↔
        ∃ pre post, events = pre ++ .task (.finish id) :: post ∧ id + 1 < dispatched pre := by
      intro id
      rw [superseded_iff_cancelled h]
      constructor
      · rintro ⟨pre, post, u, rfl, hu, hc⟩
        refine ⟨pre, post, rfl, ?_⟩
        rw [← length_of_run hu]
        exact (((kept_of_run hu).inOrder hpol).cancelled id).mp hc
      · rintro ⟨pre, post, rfl, hlt⟩
        obtain ⟨u, hu, _⟩ := Steps.run_append_eq_some.mp h
        refine ⟨pre, post, u, rfl, hu, (((kept_of_run hu).inOrder hpol).cancelled id).mpr ?_⟩
        rw [length_of_run hu]
        exact hlt
    refine ⟨?_, ?_, fun id => isTerminal_iff_finished h, hiff, ?_, ?_⟩
    · intro id
      rw [hord.inFlight, hlen]
    · intro id sub hsub
      have hlt : id < t.session.submissions.length := (List.getElem?_eq_some_iff.mp hsub).1
      have hc := hord.cancelled id
      rw [Session.isCancelled, hsub, Option.any_some] at hc
      rw [hord.inFlight, ← Bool.not_eq_true, hc]
      omega
    · intro pre post m f why u v _ _ hwhy hv
      cases hv
      obtain ⟨missing, hf, _⟩ := Session.request_of_submitForm_error hwhy
      exact ⟨Session.submissions_call_of_error hf, Session.inFlight_call_of_error hf⟩
    · intro id hid hsup
      obtain ⟨pre, post, rfl, hlt⟩ := (hiff id).mp hsup
      unfold dispatched at hid hlt
      rw [List.countP_append] at hid
      omega
  · obtain ⟨_, _, u, _, hu, hc⟩ := (superseded_iff_cancelled h).mp hsup
    rw [(kept_of_run hu).uncancelled hpol id] at hc
    cases hc

/-- Two submissions, and between them a form without elements. The answer to the first one comes,
and its task stops waiting for it, before the second is dispatched. -/
def overtakenRun : List Event :=
  [.call (.submit ⟨.solidity, "a", "", none⟩), .task (.answer 0 (.ok { data := "old" })),
    .task (.wake 0 .answered), .call (.submitForm .bytecode .empty),
    .call (.submitAnalysis .bytecode "b" ""), .task (.finish 0),
    .task (.answer 1 (.ok { data := "new" })), .task (.wake 1 .answered), .task (.finish 1)]

/-- The first submission of that run is superseded all the same. -/
theorem superseded_overtakenRun :
    ∃ t, (start { scheme := "http", path := .rooted [] } .cancelPrevious (.fresh .plain)).run
        overtakenRun = some t ∧
      t.session.inFlight = some 1 ∧ t.session.state? 0 = some .superseded ∧
      t.session.state? 1 ≠ some .superseded := by
  obtain ⟨t, h⟩ : ∃ t, (start { scheme := "http", path := .rooted [] } .cancelPrevious
      (.fresh .plain)).run overtakenRun = some t := ⟨_, rfl⟩
  obtain ⟨hplace, _, _, hsup, _, hnewest⟩ := (superseded_iff_newer_dispatched h).1 rfl
  refine ⟨t, h, (hplace 1).mpr rfl, (hsup 0).mpr ?_, hnewest 1 rfl⟩
  exact ⟨overtakenRun.take 5, overtakenRun.drop 6, rfl, by decide⟩

end Traffic

end TaintClient

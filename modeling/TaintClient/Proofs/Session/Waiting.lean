/-
  What holds in every interleaving. The tasks are sound: what a task stopped waiting for was there.
  The submissions that calls are still to launch are idle, one for each such call. So nothing is
  launched twice, and a submission at its end stays there.
-/
import TaintClient.Proofs.Session.Interleaving
import TaintClient.Proofs.Session.Supersession

namespace TaintClient

/-- The submission that a call is still to launch. -/
def Stage.submission? : Stage → Option Nat
  | .replaced id _ _ | .cleared id _ => some id
  | _ => none

namespace Session

variable {s t : Session} {id : Nat}

/-- No section of a call takes a cancellation back. -/
theorem isCancelled_proceed (h : s.isCancelled id = true) (g : Stage) :
    (s.proceed g).1.isCancelled id = true := by
  cases g with
  | returned => exact h
  | replaced n m previous => exact isCancelled_clear_of_isCancelled h previous
  | cleared n m =>
    rw [← h]
    exact isCancelled_launch s n m id
  | marked c =>
    cases hr : c.request with
    | error e =>
      simp only [proceed, hr]
      exact h
    | ok r =>
      simp only [proceed, hr]
      exact (isCancelled_replace _ _ _).trans ((isCancelled_enrol s r id).trans h)

theorem policy_proceed (s : Session) (g : Stage) : (s.proceed g).1.policy = s.policy := by
  cases g with
  | returned => rfl
  | marked c =>
    cases hr : c.request with
    | error e =>
      simp only [proceed, hr]
      rfl
    | ok r =>
      simp only [proceed, hr]
      exact policy_replace _ _
  | replaced id m previous => exact policy_clear s previous
  | cleared id m => rfl

end Session

namespace Interleaving

variable {w w' : Interleaving} {sec : Section} {endpoint : Url} {policy : ResubmitPolicy}
  {panel : Panel} {sections : List Section}

/-! ## Soundness of the tasks -/

theorem sound_step (hs : w.traffic.Sound) (h : w.step sec = some w') : w'.traffic.Sound := by
  cases sec with
  | mark c =>
    cases h
    exact hs.of_session fun _ hc => hc
  | proceed i =>
    obtain ⟨g, _, _, rfl⟩ := step_proceed h
    exact hs.of_session fun _ hc => Session.isCancelled_proceed hc g
  | task k => exact Traffic.sound_advance hs (step_task h).1
  | alert message =>
    cases h
    exact hs.of_session fun _ hc => hc

/-- No section changes the policy. -/
theorem policy_step (hs : w.traffic.Sound) (h : w.step sec = some w') :
    w'.session.policy = w.session.policy := by
  cases sec with
  | mark c =>
    cases h
    rfl
  | alert message =>
    cases h
    rfl
  | proceed i =>
    obtain ⟨g, _, _, rfl⟩ := step_proceed h
    exact Session.policy_proceed _ g
  | task k =>
    obtain ⟨hadv, _⟩ := step_task h
    obtain ⟨_, hsame⟩ | ⟨_, _, _, rfl, hf⟩ := Traffic.advance_cases hs hadv
    · exact congrArg _ hsame
    · exact hf.ends.policy

theorem sound_of_run (h : (start endpoint policy panel).run sections = some w) :
    w.traffic.Sound :=
  Steps.invariant_of_run (P := fun w : Interleaving => w.traffic.Sound)
    (fun _ _ _ hs h => sound_step hs h) (Traffic.sound_start endpoint policy panel) h

/-! ## Submissions that are still to be launched -/

/-- The submission that the call of a number is still to launch. -/
def awaited (w : Interleaving) (i : Nat) : Option Nat := w.calls[i]?.bind Stage.submission?

/-- What calls are still to launch is idle, and no two calls are to launch the same. -/
structure Waiting (w : Interleaving) : Prop where
  idle : ∀ i id, w.awaited i = some id → w.session.state? id = some .idle
  distinct : ∀ i j id, w.awaited i = some id → w.awaited j = some id → i = j

theorem waiting_start : (start endpoint policy panel).Waiting := by
  constructor <;> intros <;> contradiction

/-- Waiting is kept by what neither launches a submission nor moves an idle one. -/
theorem Waiting.mono (h : w.Waiting) (hw : ∀ i id, w'.awaited i = some id → w.awaited i = some id)
    (hs : ∀ id, w.session.state? id = some .idle → w'.session.state? id = some .idle) :
    w'.Waiting :=
  ⟨fun i id hi => hs id (h.idle i id (hw i id hi)),
    fun i j id hi hj => h.distinct i j id (hw i id hi) (hw j id hj)⟩

theorem awaited_set (calls : List Stage) {i : Nat} {g : Stage} (hg : calls[i]? = some g)
    (g' : Stage) (t : Traffic) (j : Nat) :
    awaited ⟨t, calls.set i g'⟩ j =
      if j = i then g'.submission? else calls[j]?.bind Stage.submission? := by
  have hlt : i < calls.length := (List.getElem?_eq_some_iff.mp hg).1
  unfold awaited
  by_cases h : j = i
  · subst h
    rw [List.getElem?_set_self hlt, if_pos rfl]
    rfl
  · rw [List.getElem?_set_ne (Ne.symm h), if_neg h]

/-- A call that enrols a submission waits for a number that no other call waits for. -/
theorem waiting_enrol (h : w.Waiting) {i : Nat} {c : Call} (hg : w.calls[i]? = some (.marked c))
    {r : Request} (hr : c.request = .ok r) :
    Waiting { w.setSession (w.session.proceed (.marked c)).1 with
      calls := w.calls.set i (w.session.proceed (.marked c)).2 } := by
  simp only [Session.proceed, hr]
  have hstate : ∀ id, ((w.session.enrol r).1.replace (w.session.enrol r).2).1.state? id =
      if id = w.session.submissions.length then some .idle else w.session.state? id := fun id => by
    rw [Session.state?_replace, Session.state?_enrol]
  have hold : ∀ j id, w.awaited j = some id → id ≠ w.session.submissions.length := by
    rintro j _ hj rfl
    have := Session.lt_length_of_state? (h.idle j _ hj)
    omega
  constructor
  · intro j id hj
    refine (hstate id).trans ?_
    rw [awaited_set _ hg] at hj
    split at hj
    · exact if_pos (Option.some_inj.mp hj).symm
    · rw [if_neg (hold j id hj)]
      exact h.idle j id hj
  · intro j k id hj hk
    rw [awaited_set _ hg] at hj hk
    split at hj <;> split at hk
    · omega
    · exact absurd (Option.some_inj.mp hj).symm (hold k id hk)
    · exact absurd (Option.some_inj.mp hk).symm (hold j id hj)
    · exact h.distinct j k id hj hk

/-- A call that launches its submission leaves those of the other calls idle. -/
theorem waiting_launch (h : w.Waiting) {i n : Nat} {m : Mode}
    (hg : w.calls[i]? = some (.cleared n m)) :
    Waiting { w.setSession (w.session.launch n m) with calls := w.calls.set i .returned } := by
  have hi : w.awaited i = some n := by
    unfold awaited
    rw [hg]
    rfl
  constructor
  · intro j id hj
    rw [awaited_set _ hg] at hj
    split at hj
    · cases hj
    · rename_i hji
      refine (Session.state?_launch _ n m id).trans ?_
      rw [if_neg]
      · exact h.idle j id hj
      · rintro rfl
        exact hji (h.distinct j i n hj hi)
  · intro j k id hj hk
    rw [awaited_set _ hg] at hj hk
    split at hj <;> split at hk
    · omega
    · cases hj
    · cases hk
    · exact h.distinct j k id hj hk

theorem waiting_step (hs : w.traffic.Sound) (hw : w.Waiting) (h : w.step sec = some w') :
    w'.Waiting := by
  cases sec with
  | mark c =>
    cases h
    refine hw.mono (fun i id hi => ?_) fun _ hid => hid
    unfold awaited at hi ⊢
    rw [List.getElem?_append] at hi
    split at hi
    · exact hi
    · rw [List.getElem?_singleton] at hi
      split at hi <;> cases hi
  | proceed i =>
    obtain ⟨g, hg, hret, rfl⟩ := step_proceed h
    cases g with
    | returned => exact absurd rfl hret
    | marked c =>
      cases hr : c.request with
      | ok r => exact waiting_enrol hw hg hr
      | error e =>
        simp only [Session.proceed, hr]
        refine hw.mono (fun j id hj => ?_) fun _ hid => hid
        rw [awaited_set _ hg] at hj
        split at hj
        · cases hj
        · exact hj
    | replaced n m previous =>
      refine hw.mono (fun j id hj => ?_) fun id hid => ?_
      · rw [awaited_set _ hg] at hj
        split at hj
        · rename_i hji
          unfold awaited
          rw [hji, hg]
          exact hj
        · exact hj
      · exact (Session.state?_clear _ previous id).trans hid
    | cleared n m => exact waiting_launch hw hg
  | task k =>
    obtain ⟨hadv, hcalls⟩ := step_task h
    refine hw.mono (fun i id hi => ?_) fun id hid => ?_
    · unfold awaited at hi ⊢
      rw [← hcalls]
      exact hi
    · obtain ⟨_, hsame⟩ | ⟨n, _, _, rfl, hf⟩ := Traffic.advance_cases hs hadv
      · unfold session
        rw [hsame]
        exact hid
      · have hsub : w.session.state? n = some .submitted := Traffic.state?_of_advance hadv
        refine (hf.ends.state?_eq id).trans ?_
        rw [if_neg]
        · exact hid
        · rintro rfl
          rw [hsub] at hid
          cases hid
  | alert message =>
    cases h
    exact hw.mono (fun _ _ hi => hi) fun _ hid => hid

/-! ## Submissions at their end -/

/-- No section but its own last one brings a submission to its end, and none brings it back. -/
theorem state?_step (hs : w.traffic.Sound) (hw : w.Waiting) (h : w.step sec = some w') {id : Nat}
    (hne : sec ≠ .task (.finish id)) {st : SubmissionState} (hst : st.isTerminal = true) :
    w'.session.state? id = some st ↔ w.session.state? id = some st := by
  cases sec with
  | mark c =>
    cases h
    rfl
  | alert message =>
    cases h
    rfl
  | task k =>
    obtain ⟨hadv, _⟩ := step_task h
    refine Traffic.state?_step (e := .task k) hs hadv (fun he => hne ?_) hst
    exact congrArg Section.task (Event.task.inj he)
  | proceed i =>
    obtain ⟨g, hg, hret, rfl⟩ := step_proceed h
    show (w.session.proceed g).1.state? id = some st ↔ _
    cases g with
    | returned => exact absurd rfl hret
    | marked c =>
      cases hr : c.request with
      | error e =>
        simp only [Session.proceed, hr]
        rfl
      | ok r =>
        simp only [Session.proceed, hr]
        rw [Session.state?_replace, Session.state?_enrol]
        split
        · -- the submission is new, and idle
          rename_i hid
          rw [hid, Session.state?_eq_none_of_length_le (Nat.le_refl _), Option.some_inj]
          constructor
          · rintro rfl
            cases hst
          · intro hn
            cases hn
        · rfl
    | replaced n m previous => exact Iff.of_eq (congrArg (· = _) (Session.state?_clear _ _ _))
    | cleared n m =>
      have hidle : w.session.state? n = some .idle := by
        apply hw.idle i
        simp only [awaited, hg]
        rfl
      refine (Iff.of_eq (congrArg (· = _) (Session.state?_launch _ n m id))).trans ?_
      split
      · rename_i hid
        rw [← hid, hidle, Option.map_some, Option.some_inj, Option.some_inj]
        constructor <;> (rintro rfl; cases hst)
      · rfl

end Interleaving

end TaintClient

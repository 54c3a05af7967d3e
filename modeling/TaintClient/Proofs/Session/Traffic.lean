/-
  A session with the tasks of its submissions. A task waits for the end of its exchange or for its
  token to be cancelled, whichever it takes up first when both are there; then it runs its last
  section, which completes the submission. Here every call that submits runs to its return before
  anything else happens; between two calls answers arrive and tasks go on in any order.
-/
import Mathlib.Logic.Function.Basic
import TaintClient.Proofs.Session.Call
import TaintClient.Proofs.Steps

namespace TaintClient

/-! ## Tasks -/

/-- What a task stops waiting for: the cancellation of its token, or the end of its exchange. -/
inductive Branch
  | cancelled
  | answered
deriving DecidableEq, Repr

/-- How far the task of a submission is. -/
structure Task where
  /-- What came of the exchange, once it ended. -/
  answer : Option (Except Failure Response) := none
  /-- What the task stopped waiting for, once it did. -/
  branch : Option Branch := none

/-- What the last section of the task gets: nothing where the token was taken up. -/
def Task.outcome (k : Task) : Option (Except Failure Response) :=
  match k.branch with
  | some .answered => k.answer
  | _ => none

/-- What happens to the task of a submission. -/
inductive TaskStep
  /-- The exchange ends. -/
  | answer (id : Nat) (result : Except Failure Response)
  /-- The task stops waiting. -/
  | wake (id : Nat) (branch : Branch)
  /-- The task runs its last section. -/
  | finish (id : Nat)

/-- The submission whose task it is. -/
def TaskStep.id : TaskStep → Nat
  | .answer id _ => id
  | .wake id _ => id
  | .finish id => id

/-- A session and the tasks of its submissions, by number. -/
structure Traffic where
  session : Session
  tasks : Nat → Task := fun _ => {}

namespace Traffic

/-- A session before anything is submitted. -/
def start (endpoint : Url) (policy : ResubmitPolicy) (panel : Panel) : Traffic :=
  { session := .fresh endpoint policy panel }

/-- Changes the task of a submission. -/
def setTask (t : Traffic) (id : Nat) (k : Task) : Traffic :=
  { t with tasks := Function.update t.tasks id k }

/-- Whether there is what a task would stop waiting for. -/
def isReady (t : Traffic) (id : Nat) : Branch → Bool
  | .cancelled => t.session.isCancelled id
  | .answered => (t.tasks id).answer.isSome

/-- A step of the task of a submission under way. An exchange ends once, a task stops waiting
once, and it runs its last section after that. -/
def advance (t : Traffic) : TaskStep → Option Traffic
  | .answer id result =>
    if t.session.state? id = some .submitted ∧ (t.tasks id).answer.isNone then
      some (t.setTask id { t.tasks id with answer := some result })
    else none
  | .wake id branch =>
    if t.session.state? id = some .submitted ∧ (t.tasks id).branch = none ∧ t.isReady id branch then
      some (t.setTask id { t.tasks id with branch := some branch })
    else none
  | .finish id =>
    if t.session.state? id = some .submitted ∧ (t.tasks id).branch.isSome then
      some { t with session := t.session.complete id (t.tasks id).outcome }
    else none

end Traffic

/-! ## What a task step does -/

namespace Traffic

variable {t t' : Traffic} {id : Nat}

/-- A task that stopped waiting had what it waited for: its token is cancelled, or its exchange
ended. -/
structure Sound (t : Traffic) : Prop where
  cancelled : ∀ id, (t.tasks id).branch = some .cancelled → t.session.isCancelled id = true
  answered : ∀ id, (t.tasks id).branch = some .answered → (t.tasks id).answer.isSome = true

theorem sound_start (endpoint : Url) (policy : ResubmitPolicy) (panel : Panel) :
    (start endpoint policy panel).Sound := by
  constructor <;> intro id h <;> cases h

/-- A session in which whoever was cancelled still is. -/
theorem Sound.of_session {s : Session} (h : t.Sound)
    (hs : ∀ id, t.session.isCancelled id = true → s.isCancelled id = true) :
    Sound { t with session := s } :=
  ⟨fun id hb => hs id (h.cancelled id hb), h.answered⟩

/-- Until the last section of a task the session is left alone. -/
theorem session_advance {k : TaskStep} (h : t.advance k = some t') (hk : ∀ id, k ≠ .finish id) :
    t'.session = t.session := by
  cases k with
  | answer id result =>
    simp only [advance] at h
    split at h <;> cases h
    rfl
  | wake id branch =>
    simp only [advance] at h
    split at h <;> cases h
    rfl
  | finish id => exact absurd rfl (hk id)

/-- A task takes its steps while its submission is under way. -/
theorem state?_of_advance {k : TaskStep} (h : t.advance k = some t') :
    t.session.state? k.id = some .submitted := by
  cases k with
  | answer id result =>
    simp only [advance] at h
    split at h
    · rename_i hc
      exact hc.1
    · cases h
  | wake id branch =>
    simp only [advance] at h
    split at h
    · rename_i hc
      exact hc.1
    · cases h
  | finish id =>
    simp only [advance] at h
    split at h
    · rename_i hc
      exact hc.1
    · cases h

/-- The last section of a task supersedes a cancelled submission, whatever came of its exchange,
and applies what came of any other. -/
theorem advance_finish (ht : t.Sound) (h : t.advance (.finish id) = some t') :
    ∃ sub, t.session.submissions[id]? = some sub ∧ sub.state = .submitted ∧ t'.tasks = t.tasks ∧
      ((sub.isCancelled = true ∧ t'.session = t.session.supersede id sub.request.mode) ∨
        (sub.isCancelled = false ∧ ∃ result, (t.tasks id).answer = some result ∧
          t'.session = t.session.apply id sub.request.mode result)) := by
  have hst : t.session.state? id = some .submitted := state?_of_advance h
  obtain ⟨sub, hsub, hstate⟩ := Option.map_eq_some_iff.mp hst
  simp only [advance] at h
  split at h <;> cases h
  rename_i hc
  refine ⟨sub, hsub, hstate, rfl, ?_⟩
  cases hcan : sub.isCancelled with
  | true => exact Or.inl ⟨rfl, Session.complete_of_cancelled hsub hstate hcan _⟩
  | false =>
    -- the token is not cancelled, so the task cannot have taken it up
    have hb : (t.tasks id).branch = some .answered := by
      obtain ⟨b, hb⟩ := Option.isSome_iff_exists.mp hc.2
      cases b with
      | answered => exact hb
      | cancelled =>
        have := ht.cancelled id hb
        simp [Session.isCancelled, hsub, hcan] at this
    obtain ⟨result, hr⟩ := Option.isSome_iff_exists.mp (ht.answered id hb)
    refine Or.inr ⟨rfl, result, hr, ?_⟩
    simp only [Task.outcome, hb, hr]
    exact Session.complete_some hsub hstate hcan result

/-- The task of a submission under way ran its last section, which ended the submission in a
state. -/
structure Finishes (t : Traffic) (id : Nat) (sub : Submission) (st : SubmissionState)
    (t' : Traffic) : Prop where
  submission : t.session.submissions[id]? = some sub
  submitted : sub.state = .submitted
  terminal : st.isTerminal = true
  superseded : st = .superseded ↔ sub.isCancelled = true
  tasks : t'.tasks = t.tasks
  ends : t.session.Ends id sub.request.mode st t'.session

theorem finishes_of_advance (ht : t.Sound) (h : t.advance (.finish id) = some t') :
    ∃ sub st, t.Finishes id sub st t' := by
  obtain ⟨sub, hsub, hstate, htasks, ⟨hc, he⟩ | ⟨hc, result, _, he⟩⟩ := advance_finish ht h
  · refine ⟨sub, .superseded, hsub, hstate, rfl, by simp [hc], htasks, ?_⟩
    rw [he]
    exact Session.ends_supersede _ _ _
  · refine ⟨sub, .ofResult result, hsub, hstate, SubmissionState.isTerminal_ofResult result, ?_,
      htasks, ?_⟩
    · simp [hc, SubmissionState.ofResult_ne_superseded]
    · rw [he]
      exact Session.ends_apply _ _ _ _

theorem Finishes.state?_eq {sub : Submission} {st : SubmissionState} (h : t.Finishes id sub st t') :
    t'.session.state? id = some st := by
  rw [h.ends.state?_eq, if_pos rfl, Session.state?_of_getElem? h.submission]
  rfl

/-- A task step leaves the session alone, or it is a last section. -/
theorem advance_cases {k : TaskStep} (ht : t.Sound) (h : t.advance k = some t') :
    ((∀ id, k ≠ .finish id) ∧ t'.session = t.session) ∨
      ∃ id sub st, k = .finish id ∧ t.Finishes id sub st t' := by
  cases k with
  | finish id =>
    obtain ⟨sub, st, hf⟩ := finishes_of_advance ht h
    exact Or.inr ⟨id, sub, st, rfl, hf⟩
  | _ => exact Or.inl ⟨fun _ hk => (by cases hk), session_advance h fun _ hk => (by cases hk)⟩

theorem sound_advance {k : TaskStep} (ht : t.Sound) (h : t.advance k = some t') : t'.Sound := by
  cases k with
  | answer id result =>
    simp only [advance] at h
    split at h <;> cases h
    constructor <;> intro j hj <;> by_cases hji : j = id
    · subst hji
      simp only [setTask, Function.update_self] at hj
      exact ht.cancelled j hj
    · simp only [setTask, Function.update_of_ne hji] at hj
      exact ht.cancelled j hj
    · subst hji
      simp only [setTask, Function.update_self, Option.isSome_some]
    · simp only [setTask, Function.update_of_ne hji] at hj ⊢
      exact ht.answered j hj
  | wake id branch =>
    simp only [advance] at h
    split at h <;> cases h
    rename_i hc
    constructor <;> intro j hj <;> by_cases hji : j = id
    · subst hji
      simp only [setTask, Function.update_self, Option.some_inj] at hj
      subst hj
      exact hc.2.2
    · simp only [setTask, Function.update_of_ne hji] at hj
      exact ht.cancelled j hj
    · subst hji
      simp only [setTask, Function.update_self, Option.some_inj] at hj ⊢
      subst hj
      exact hc.2.2
    · simp only [setTask, Function.update_of_ne hji] at hj ⊢
      exact ht.answered j hj
  | finish id =>
    obtain ⟨sub, st, hf⟩ := finishes_of_advance ht h
    constructor <;> intro j hj <;> rw [hf.tasks] at hj
    · rw [hf.ends.isCancelled_eq]
      exact ht.cancelled j hj
    · rw [hf.tasks]
      exact ht.answered j hj

end Traffic

/-! ## Runs -/

/-- What happens to a session whose calls are not interrupted. -/
inductive Event
  | call (c : Call)
  | task (k : TaskStep)
  | alert (message : String)

/-- Whether something is submitted. -/
def Event.dispatches : Event → Bool
  | .call c => c.dispatches
  | _ => false

/-- How many submissions are dispatched. -/
def dispatched (events : List Event) : Nat := events.countP Event.dispatches

namespace Traffic

/-- One event; a task step that is not due is refused. -/
def step (t : Traffic) : Event → Option Traffic
  | .call c => some { t with session := t.session.call c }
  | .task k => t.advance k
  | .alert message => some { t with session := t.session.alert message }

/-- The state after a list of events, if none of them is refused. -/
def run (t : Traffic) (events : List Event) : Option Traffic := Steps.run step t events

end Traffic

end TaintClient

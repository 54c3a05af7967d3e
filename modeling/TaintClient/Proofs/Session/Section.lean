/-
  What the critical sections of a session do to its submissions and to its page. Marking and
  unmarking touch the page only; enrolling, replacing, cancelling and launching touch the
  submissions only; completing ends one submission, gives its mark back, and, unless it was
  cancelled, applies what came of it.
-/
import TaintClient.Session
import TaintClient.Proofs.Panel.Effect

namespace TaintClient

namespace Session

variable {s t : Session} {id : Nat} {m : Mode} {sub : Submission}

/-- Whether a submission is cancelled. -/
def isCancelled (s : Session) (id : Nat) : Bool := s.submissions[id]?.any (·.isCancelled)

/-- Cancels the submission that a new one took the place of, if there was one. -/
def clear (s : Session) (previous : Option Nat) : Session :=
  match previous with
  | some p => s.cancel p
  | none => s

/-- Dispatching a request is four sections: it is enrolled, put into the place, the one before is
cancelled, and it is launched. -/
theorem dispatch_eq (s : Session) (r : Request) :
    (s.dispatch r).1 =
      (((s.enrol r).1.replace s.submissions.length).1.clear
        ((s.enrol r).1.replace s.submissions.length).2).launch s.submissions.length r.mode := rfl

/-! ## Putting a submission into the place -/

theorem replace_of_cancelPrevious (hp : s.policy = .cancelPrevious) (id : Nat) :
    s.replace id = ({ s with inFlight := some id }, s.inFlight) := by
  simp only [replace, hp]

theorem replace_of_lastResponseWins (hp : s.policy = .lastResponseWins) (id : Nat) :
    s.replace id = (s, none) := by
  simp only [replace, hp]

@[simp] theorem submissions_replace (s : Session) (id : Nat) :
    (s.replace id).1.submissions = s.submissions := by
  unfold replace
  split <;> rfl

@[simp] theorem policy_replace (s : Session) (id : Nat) : (s.replace id).1.policy = s.policy := by
  unfold replace
  split <;> rfl

@[simp] theorem panel_replace (s : Session) (id : Nat) : (s.replace id).1.panel = s.panel := by
  unfold replace
  split <;> rfl

@[simp] theorem policy_clear (s : Session) (previous : Option Nat) :
    (s.clear previous).policy = s.policy := by cases previous <;> rfl

@[simp] theorem panel_clear (s : Session) (previous : Option Nat) :
    (s.clear previous).panel = s.panel := by cases previous <;> rfl

@[simp] theorem inFlight_clear (s : Session) (previous : Option Nat) :
    (s.clear previous).inFlight = s.inFlight := by cases previous <;> rfl

@[simp] theorem length_clear (s : Session) (previous : Option Nat) :
    (s.clear previous).submissions.length = s.submissions.length := by
  cases previous with
  | none => rfl
  | some p => exact List.length_modify _ _ _

@[simp] theorem policy_dispatch (s : Session) (r : Request) :
    (s.dispatch r).1.policy = s.policy := by
  rw [dispatch_eq]
  exact (policy_clear _ _).trans (policy_replace _ _)

@[simp] theorem panel_dispatch (s : Session) (r : Request) :
    (s.dispatch r).1.panel = s.panel := by
  rw [dispatch_eq]
  exact (panel_clear _ _).trans (panel_replace _ _)

@[simp] theorem length_dispatch (s : Session) (r : Request) :
    (s.dispatch r).1.submissions.length = s.submissions.length + 1 := by
  rw [dispatch_eq]
  refine (List.length_modify _ _ _).trans ?_
  rw [length_clear, submissions_replace]
  exact List.length_append

/-! ## Completing a submission -/

/-- The submission `id` of the mode `m` ended in the state `st`: nothing but its own state
changed among the submissions, and its mark was given back. -/
structure Ends (s : Session) (id : Nat) (m : Mode) (st : SubmissionState) (t : Session) :
    Prop where
  submissions : t.submissions = s.submissions.modify id ({ · with state := st })
  inFlight : t.inFlight = s.inFlight
  policy : t.policy = s.policy
  variant : t.panel.variant = s.panel.variant
  label : ∀ n, t.panel.label n = (s.panel.release m).label n

theorem ends_supersede (s : Session) (id : Nat) (m : Mode) :
    s.Ends id m .superseded (s.supersede id m) :=
  ⟨rfl, rfl, rfl, Panel.variant_release _ _, fun _ => rfl⟩

theorem submissions_apply (s : Session) (id : Nat) (m : Mode) (result : Except Failure Response) :
    (s.apply id m result).submissions =
      s.submissions.modify id ({ · with state := .ofResult result }) := by
  rw [← Panel.finish_state s.panel m result]
  rfl

theorem ends_apply (s : Session) (id : Nat) (m : Mode) (result : Except Failure Response) :
    s.Ends id m (.ofResult result) (s.apply id m result) :=
  ⟨submissions_apply s id m result, rfl, rfl, Panel.variant_finish _ _ _,
    fun n => Panel.label_finish _ _ n _⟩

theorem complete_of_cancelled (h : s.submissions[id]? = some sub) (hs : sub.state = .submitted)
    (hc : sub.isCancelled = true) (result : Option (Except Failure Response)) :
    s.complete id result = s.supersede id sub.request.mode := by
  simp only [complete, h, hs, hc]
  rfl

theorem complete_some (h : s.submissions[id]? = some sub) (hs : sub.state = .submitted)
    (hc : sub.isCancelled = false) (result : Except Failure Response) :
    s.complete id (some result) = s.apply id sub.request.mode result := by
  simp only [complete, h, hs, hc]
  rfl

end Session

end TaintClient

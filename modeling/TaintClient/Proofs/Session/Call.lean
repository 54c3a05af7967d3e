/-
  The calls that submit: a request, code and input, or what a form holds. A call marks the page,
  and then either dispatches its request or, where its form lacks an element, takes the mark back.
-/
import TaintClient.Proofs.Session.Place

namespace TaintClient

/-- A call that submits. -/
inductive Call
  | submit (r : Request)
  | submitAnalysis (m : Mode) (code input : String)
  | submitForm (m : Mode) (f : Form)

namespace Call

/-- The mode that the page is marked for. -/
def mode : Call → Mode
  | .submit r => r.mode
  | .submitAnalysis m _ _ => m
  | .submitForm m _ => m

/-- The request of the call, or the element that its form lacks. -/
def request : Call → Except String Request
  | .submit r => .ok r
  | .submitAnalysis m code input => .ok ⟨m, code, input, none⟩
  | .submitForm m f => f.request m

/-- Whether the call submits something. -/
def dispatches (c : Call) : Bool :=
  match c.request with
  | .ok _ => true
  | .error _ => false

theorem mode_of_request {c : Call} {r : Request} (h : c.request = .ok r) : r.mode = c.mode := by
  cases c with
  | submit _ =>
    cases h
    rfl
  | submitAnalysis _ _ _ =>
    cases h
    rfl
  | submitForm m f =>
    simp only [request, Form.request] at h
    split at h <;> cases h
    rfl

end Call

/-- The session after a call. -/
def Session.call (s : Session) : Call → Session
  | .submit r => (s.submit r).1
  | .submitAnalysis m code input => (s.submitAnalysis m code input).1
  | .submitForm m f => (s.submitForm m f).1

theorem Session.call_of_ok (s : Session) {c : Call} {r : Request} (h : c.request = .ok r) :
    s.call c = ((s.mark c.mode).dispatch r).1 := by
  cases c with
  | submit _ =>
    cases h
    rfl
  | submitAnalysis _ _ _ =>
    cases h
    rfl
  | submitForm m f =>
    simp only [Call.request] at h
    simp only [call, submitForm, h]
    rfl

theorem Session.call_of_error (s : Session) {c : Call} {e : String} (h : c.request = .error e) :
    s.call c = (s.mark c.mode).unmark c.mode := by
  cases c with
  | submit _ => cases h
  | submitAnalysis _ _ _ => cases h
  | submitForm m f =>
    simp only [Call.request] at h
    simp only [call, submitForm, h]
    rfl

namespace Session

variable {s : Session} {c : Call} {id : Nat}

/-- A form call fails only for an element that the form lacks. -/
theorem request_of_submitForm_error {m : Mode} {f : Form} {why : Failure}
    (h : (s.submitForm m f).2 = .error why) :
    ∃ missing, f.request m = .error missing ∧ why = .missingElement missing := by
  cases hr : f.request m with
  | error missing =>
    simp only [submitForm, hr, Except.error.injEq] at h
    exact ⟨missing, rfl, h.symm⟩
  | ok r => simp [submitForm, hr] at h

/-- A call whose form lacks an element is a mark that is taken back, and nothing else. -/
theorem submissions_call_of_error {e : String} (h : c.request = .error e) :
    (s.call c).submissions = s.submissions := by
  rw [call_of_error s h]
  rfl

theorem inFlight_call_of_error {e : String} (h : c.request = .error e) :
    (s.call c).inFlight = s.inFlight := by
  rw [call_of_error s h]
  rfl

theorem policy_call (s : Session) (c : Call) : (s.call c).policy = s.policy := by
  cases h : c.request with
  | error e =>
    rw [call_of_error s h]
    rfl
  | ok r =>
    rw [call_of_ok s h]
    exact policy_dispatch _ r

theorem length_call (s : Session) (c : Call) :
    (s.call c).submissions.length = s.submissions.length + if c.dispatches then 1 else 0 := by
  cases h : c.request with
  | error e =>
    simp only [submissions_call_of_error h, Call.dispatches, h]
    rfl
  | ok r =>
    simp only [Call.dispatches, h]
    rw [call_of_ok s h]
    exact length_dispatch _ r

/-- A call that submits something adds a submission under way; no call moves another one. -/
theorem state?_call (s : Session) (c : Call) (j : Nat) :
    (s.call c).state? j =
      if c.dispatches ∧ j = s.submissions.length then some .submitted else s.state? j := by
  cases h : c.request with
  | error e =>
    rw [if_neg (by simp [Call.dispatches, h])]
    unfold state?
    rw [submissions_call_of_error h]
  | ok r =>
    simp only [Call.dispatches, h, true_and]
    rw [call_of_ok s h]
    exact state?_dispatch _ r j

theorem request?_call_of_ok {r : Request} (h : c.request = .ok r) (j : Nat) :
    (s.call c).request? j = if j = s.submissions.length then some r else s.request? j := by
  rw [call_of_ok s h]
  exact request?_dispatch _ r j

theorem request?_call_of_error {e : String} (h : c.request = .error e) (j : Nat) :
    (s.call c).request? j = s.request? j := by
  unfold request?
  rw [submissions_call_of_error h]

/-- A call marks the page, whether or not it submits anything. -/
theorem region_call (s : Session) (c : Call) :
    (s.call c).panel.region = (s.panel.start c.mode).region := by
  cases h : c.request with
  | error e =>
    rw [call_of_error s h]
    exact Panel.region_release _ _
  | ok r =>
    rw [call_of_ok s h]
    exact congrArg Panel.region (panel_dispatch _ r)

theorem alerts_call (s : Session) (c : Call) : (s.call c).panel.alerts = s.panel.alerts := by
  cases h : c.request with
  | error e =>
    rw [call_of_error s h]
    exact (Panel.alerts_release _ _).trans (Panel.alerts_start _ _)
  | ok r =>
    rw [call_of_ok s h]
    exact (congrArg Panel.alerts (panel_dispatch _ r)).trans (Panel.alerts_start _ _)

theorem variant_call (s : Session) (c : Call) : (s.call c).panel.variant = s.panel.variant := by
  cases h : c.request with
  | error e =>
    rw [call_of_error s h]
    exact (Panel.variant_release _ _).trans (Panel.variant_start _ _)
  | ok r =>
    rw [call_of_ok s h]
    exact (congrArg Panel.variant (panel_dispatch _ r)).trans (Panel.variant_start _ _)

theorem inOrder_call (hp : s.policy = .cancelPrevious) (h : s.InOrder) (c : Call) :
    (s.call c).InOrder := by
  cases hr : c.request with
  | error e =>
    rw [call_of_error s hr]
    exact ⟨h.inFlight, h.cancelled⟩
  | ok r =>
    rw [call_of_ok s hr]
    exact inOrder_dispatch (s := s.mark c.mode) hp ⟨h.inFlight, h.cancelled⟩ r

theorem isCancelled_call_eq_false (hp : s.policy = .lastResponseWins)
    (h : ∀ id, s.isCancelled id = false) (c : Call) (id : Nat) :
    (s.call c).isCancelled id = false := by
  cases hr : c.request with
  | error e =>
    rw [call_of_error s hr]
    exact h id
  | ok r =>
    rw [call_of_ok s hr]
    exact isCancelled_dispatch_eq_false (s := s.mark c.mode) hp h r id

/-- A call takes no cancellation back. -/
theorem isCancelled_call (h : s.isCancelled id = true) (c : Call) :
    (s.call c).isCancelled id = true := by
  cases hr : c.request with
  | error e =>
    rw [call_of_error s hr]
    exact h
  | ok r =>
    rw [call_of_ok s hr]
    exact isCancelled_dispatch (s := s.mark c.mode) h r

end Session

end TaintClient

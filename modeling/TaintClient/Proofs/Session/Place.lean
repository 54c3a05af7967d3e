/-
  Who holds the place in flight, who is cancelled, and where each submission stands, number by
  number. A session is `InOrder` when the newest submission holds the place and is the only one
  not cancelled. Between the section that replaces the holder and the one that cancels it the
  session is `Displacing`; a whole dispatch of a session that cancels keeps it in order.
-/
import TaintClient.Proofs.Session.Section

namespace TaintClient

namespace Session

variable {s t : Session} {id : Nat} {m : Mode} {st : SubmissionState}

/-- What a submission asks for. -/
def request? (s : Session) (id : Nat) : Option Request := s.submissions[id]?.map (·.request)

/-! ## Changes to one submission -/

theorem length_modify (s : Session) (id : Nat) (f : Submission → Submission) :
    (s.modify id f).submissions.length = s.submissions.length := List.length_modify _ _ _

/-- What a change to one submission keeps is as it was of every submission. -/
theorem map_getElem?_modify {α : Type} {f : Submission → Submission} {g : Submission → α}
    (hf : ∀ sub, g (f sub) = g sub) (s : Session) (id j : Nat) :
    (s.modify id f).submissions[j]?.map g = s.submissions[j]?.map g := by
  unfold modify
  rw [List.getElem?_modify]
  cases s.submissions[j]? with
  | none => rfl
  | some sub =>
    by_cases h : id = j
    · simp [h, hf]
    · simp [h]

theorem isCancelled_eq_getD (s : Session) (id : Nat) :
    s.isCancelled id = (s.submissions[id]?.map (·.isCancelled)).getD false := by
  unfold isCancelled
  cases s.submissions[id]? <;> rfl

theorem isCancelled_modify {f : Submission → Submission}
    (hf : ∀ sub, (f sub).isCancelled = sub.isCancelled) (s : Session) (id j : Nat) :
    (s.modify id f).isCancelled j = s.isCancelled j := by
  rw [isCancelled_eq_getD, map_getElem?_modify hf, ← isCancelled_eq_getD]

theorem state?_modify {f : Submission → Submission} (hf : ∀ sub, (f sub).state = sub.state)
    (s : Session) (id j : Nat) : (s.modify id f).state? j = s.state? j :=
  map_getElem?_modify hf s id j

theorem request?_modify {f : Submission → Submission} (hf : ∀ sub, (f sub).request = sub.request)
    (s : Session) (id j : Nat) : (s.modify id f).request? j = s.request? j :=
  map_getElem?_modify hf s id j

/-- Writing a state changes the state of that submission and of no other. -/
theorem state?_modify_state (s : Session) (st : SubmissionState) (id j : Nat) :
    (s.modify id ({ · with state := st })).state? j =
      if id = j then (s.state? j).map fun _ => st else s.state? j := by
  unfold state? modify
  rw [List.getElem?_modify]
  cases s.submissions[j]? with
  | none => simp
  | some sub =>
    by_cases h : id = j
    · simp [h]
    · simp [h]

theorem state?_of_getElem? {sub : Submission} (h : s.submissions[id]? = some sub) :
    s.state? id = some sub.state := by
  unfold state?
  rw [h]
  rfl

theorem lt_length_of_state? (h : s.state? id = some st) : id < s.submissions.length := by
  obtain ⟨sub, hs, _⟩ := Option.map_eq_some_iff.mp h
  exact (List.getElem?_eq_some_iff.mp hs).1

theorem state?_eq_none_of_length_le (h : s.submissions.length ≤ id) : s.state? id = none := by
  unfold state?
  rw [List.getElem?_eq_none h]
  rfl

/-! ## Enrolling and dispatching -/

/-- Enrolling adds one submission at the end. -/
theorem getElem?_enrol (s : Session) (r : Request) (j : Nat) :
    (s.enrol r).1.submissions[j]? =
      if j = s.submissions.length then some { request := r } else s.submissions[j]? := by
  unfold enrol
  rw [List.getElem?_append]
  by_cases hlt : j < s.submissions.length
  · rw [if_pos hlt, if_neg (by omega)]
  · rw [if_neg hlt, List.getElem?_eq_none (Nat.le_of_not_lt hlt)]
    by_cases he : j = s.submissions.length
    · simp [he]
    · rw [if_neg he, List.getElem?_eq_none (by simp; omega)]

theorem isCancelled_enrol (s : Session) (r : Request) (j : Nat) :
    (s.enrol r).1.isCancelled j = s.isCancelled j := by
  unfold isCancelled
  rw [getElem?_enrol]
  split
  · rename_i h
    rw [List.getElem?_eq_none (Nat.le_of_eq h.symm)]
    rfl
  · rfl

theorem isCancelled_replace (s : Session) (id j : Nat) :
    (s.replace id).1.isCancelled j = s.isCancelled j := by
  unfold isCancelled
  rw [submissions_replace]

theorem isCancelled_clear (s : Session) (p j : Nat) :
    (s.clear (some p)).isCancelled j =
      (s.isCancelled j || decide (p = j ∧ j < s.submissions.length)) := by
  unfold isCancelled clear cancel modify
  rw [List.getElem?_modify]
  by_cases hj : j < s.submissions.length
  · rw [List.getElem?_eq_getElem hj]
    by_cases h : p = j
    · simp [h, hj]
    · simp [h]
  · rw [List.getElem?_eq_none (Nat.le_of_not_lt hj)]
    simp [hj]

theorem isCancelled_launch (s : Session) (id : Nat) (m : Mode) (j : Nat) :
    (s.launch id m).isCancelled j = s.isCancelled j :=
  isCancelled_modify (f := ({ · with state := .submitted })) (fun _ => rfl) s id j

theorem state?_enrol (s : Session) (r : Request) (j : Nat) :
    (s.enrol r).1.state? j = if j = s.submissions.length then some .idle else s.state? j := by
  unfold state?
  rw [getElem?_enrol]
  split <;> rfl

theorem state?_replace (s : Session) (id j : Nat) : (s.replace id).1.state? j = s.state? j := by
  unfold state?
  rw [submissions_replace]

theorem state?_clear (s : Session) (previous : Option Nat) (j : Nat) :
    (s.clear previous).state? j = s.state? j := by
  cases previous with
  | none => rfl
  | some p => exact state?_modify (f := ({ · with isCancelled := true })) (fun _ => rfl) s p j

theorem state?_launch (s : Session) (id : Nat) (m : Mode) (j : Nat) :
    (s.launch id m).state? j =
      if id = j then (s.state? j).map fun _ => .submitted else s.state? j :=
  state?_modify_state s .submitted id j

/-- A dispatch adds one submission, which is under way, and moves no other. -/
theorem state?_dispatch (s : Session) (r : Request) (j : Nat) :
    (s.dispatch r).1.state? j =
      if j = s.submissions.length then some .submitted else s.state? j := by
  rw [dispatch_eq, state?_launch, state?_clear, state?_replace, state?_enrol]
  by_cases h : j = s.submissions.length
  · simp [h]
  · simp only [if_neg h, if_neg (Ne.symm h)]

theorem request?_dispatch (s : Session) (r : Request) (j : Nat) :
    (s.dispatch r).1.request? j =
      if j = s.submissions.length then some r else s.request? j := by
  have hclear : ∀ (u : Session) (previous : Option Nat),
      (u.clear previous).request? j = u.request? j := fun u previous => by
    cases previous with
    | none => rfl
    | some p => exact request?_modify (f := ({ · with isCancelled := true })) (fun _ => rfl) u p j
  rw [dispatch_eq]
  refine (request?_modify (f := ({ · with state := .submitted })) (fun _ => rfl) _ _ j).trans ?_
  rw [hclear]
  unfold request?
  rw [submissions_replace, getElem?_enrol]
  split <;> rfl

/-- Cancelling the old holder takes no cancellation back. -/
theorem isCancelled_clear_of_isCancelled (h : s.isCancelled id = true) (previous : Option Nat) :
    (s.clear previous).isCancelled id = true := by
  cases previous with
  | none => exact h
  | some p => rw [isCancelled_clear, h, Bool.true_or]

theorem isCancelled_dispatch (h : s.isCancelled id = true) (r : Request) :
    (s.dispatch r).1.isCancelled id = true := by
  rw [dispatch_eq, isCancelled_launch]
  apply isCancelled_clear_of_isCancelled
  rw [isCancelled_replace, isCancelled_enrol, h]

/-! ## Ending -/

namespace Ends

theorem length_eq (h : s.Ends id m st t) : t.submissions.length = s.submissions.length := by
  rw [h.submissions]
  exact List.length_modify _ _ _

theorem isCancelled_eq (h : s.Ends id m st t) (j : Nat) : t.isCancelled j = s.isCancelled j := by
  have hm := isCancelled_modify (f := ({ · with state := st })) (fun _ => rfl) s id j
  unfold isCancelled at hm ⊢
  rw [h.submissions]
  exact hm

theorem request?_eq (h : s.Ends id m st t) (j : Nat) : t.request? j = s.request? j := by
  have hm := request?_modify (f := ({ · with state := st })) (fun _ => rfl) s id j
  unfold request? at hm ⊢
  rw [h.submissions]
  exact hm

theorem state?_eq (h : s.Ends id m st t) (j : Nat) :
    t.state? j = if id = j then (s.state? j).map fun _ => st else s.state? j := by
  have hm := state?_modify_state s st id j
  unfold state? at hm ⊢
  rw [h.submissions]
  exact hm

end Ends

/-! ## The order of cancellation -/

/-- The newest submission holds the place, and all the others are cancelled. -/
structure InOrder (s : Session) : Prop where
  inFlight : ∀ id, s.inFlight = some id ↔ id + 1 = s.submissions.length
  cancelled : ∀ id, s.isCancelled id = true ↔ id + 1 < s.submissions.length

/-- The newest submission holds the place, and the one before it, if there is one, is still to be
cancelled. -/
structure Displacing (s : Session) (previous : Option Nat) : Prop where
  inFlight : ∀ id, s.inFlight = some id ↔ id + 1 = s.submissions.length
  previous : ∀ id, previous = some id ↔ id + 2 = s.submissions.length
  cancelled : ∀ id, s.isCancelled id = true ↔ id + 2 < s.submissions.length

theorem inOrder_fresh (endpoint : Url) (policy : ResubmitPolicy) (panel : Panel) :
    (fresh endpoint policy panel).InOrder := by
  constructor <;> intro id <;> simp [fresh, isCancelled]

/-- The place is taken over before its old holder is cancelled. -/
theorem displacing_replace (hp : s.policy = .cancelPrevious) (h : s.InOrder) (r : Request) :
    ((s.enrol r).1.replace s.submissions.length).1.Displacing
      ((s.enrol r).1.replace s.submissions.length).2 := by
  have hlen : (s.enrol r).1.submissions.length = s.submissions.length + 1 := List.length_append
  constructor <;> intro id
  · rw [submissions_replace, replace_of_cancelPrevious (s := (s.enrol r).1) hp, hlen]
    simp only [Option.some_inj]
    omega
  · rw [submissions_replace, replace_of_cancelPrevious (s := (s.enrol r).1) hp, hlen]
    have hi := h.inFlight id
    rw [show (s.enrol r).1.inFlight = s.inFlight from rfl, hi]
    omega
  · rw [isCancelled_replace, isCancelled_enrol, submissions_replace, hlen, h.cancelled id]
    omega

/-- Cancelling the old holder puts the session in order again. -/
theorem inOrder_clear {previous : Option Nat} (h : s.Displacing previous) :
    (s.clear previous).InOrder := by
  constructor <;> intro id
  · rw [inFlight_clear, length_clear]
    exact h.inFlight id
  · have hc := h.cancelled id
    rw [length_clear]
    cases hprev : previous with
    | none =>
      have hnone := h.previous (s.submissions.length - 2)
      rw [hprev] at hnone
      simp only [reduceCtorEq, false_iff] at hnone
      show s.isCancelled id = true ↔ _
      rw [hc]
      omega
    | some p =>
      have hp := (h.previous p).mp hprev
      rw [isCancelled_clear, Bool.or_eq_true, decide_eq_true_eq, hc]
      omega

theorem inOrder_launch (h : s.InOrder) (id : Nat) (m : Mode) : (s.launch id m).InOrder := by
  have hlen : (s.launch id m).submissions.length = s.submissions.length := length_modify s id _
  constructor <;> intro j
  · rw [hlen]
    exact h.inFlight j
  · rw [isCancelled_launch, hlen]
    exact h.cancelled j

/-- What takes the place of the newest submission and cancels it is the newest in its turn. -/
theorem inOrder_dispatch (hp : s.policy = .cancelPrevious) (h : s.InOrder) (r : Request) :
    (s.dispatch r).1.InOrder := by
  rw [dispatch_eq]
  exact inOrder_launch (inOrder_clear (displacing_replace hp h r)) _ _

/-- Ending a submission changes neither the place nor who is cancelled. -/
theorem InOrder.ends (h : s.InOrder) (he : s.Ends id m st t) : t.InOrder := by
  constructor <;> intro j
  · rw [he.inFlight, he.length_eq]
    exact h.inFlight j
  · rw [he.isCancelled_eq, he.length_eq]
    exact h.cancelled j

theorem Displacing.ends {previous : Option Nat} (h : s.Displacing previous)
    (he : s.Ends id m st t) : t.Displacing previous := by
  constructor <;> intro j
  · rw [he.inFlight, he.length_eq]
    exact h.inFlight j
  · rw [he.length_eq]
    exact h.previous j
  · rw [he.isCancelled_eq, he.length_eq]
    exact h.cancelled j

/-- Where nothing is cancelled, a dispatch that lets the last response win cancels nothing. -/
theorem isCancelled_dispatch_eq_false (hp : s.policy = .lastResponseWins)
    (h : ∀ id, s.isCancelled id = false) (r : Request) (id : Nat) :
    (s.dispatch r).1.isCancelled id = false := by
  rw [dispatch_eq, isCancelled_launch, replace_of_lastResponseWins (s := (s.enrol r).1) hp]
  exact (isCancelled_enrol s r id).trans (h id)

end Session

end TaintClient

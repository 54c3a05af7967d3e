/-
  What the operations of a page do, seen through three views: the region (its markup and the
  response it shows), the label of each mode, and the alerts. The labels are written by marking a
  submission and by giving its mark back; the region by marking on a plain page and by a report.
-/
import TaintClient.Panel

namespace TaintClient

/-- The state that what came of an exchange brings a submission to. -/
def SubmissionState.ofResult : Except Failure Response → SubmissionState
  | .ok _ => .rendered
  | .error f => if f.raisesAlert then .alerted else .faulted

theorem SubmissionState.isTerminal_ofResult (result : Except Failure Response) :
    (ofResult result).isTerminal = true := by
  cases result with
  | ok r => rfl
  | error f =>
    simp only [ofResult]
    split <;> rfl

theorem SubmissionState.ofResult_ne_superseded (result : Except Failure Response) :
    ofResult result ≠ .superseded := by
  cases result with
  | ok r => simp [ofResult]
  | error f =>
    simp only [ofResult]
    split <;> simp

namespace Panel

/-- The markup of the region, and the response that it shows. -/
def region (p : Panel) : String × Option Response := (p.html, p.lastResponse)

/-- A page whose labels were written before anything was submitted. -/
def withLabels (p : Panel) (labels : List (Mode × String)) : Panel :=
  labels.foldl (fun p l => p.withLabel l.1 l.2) p

/-! ## Labels -/

theorem label_setLabel_of_ne (p : Panel) {m n : Mode} (l : StatusLabel) (h : n ≠ m) :
    (p.setLabel m l).label n = p.label n := by
  cases m <;> cases n <;> first | rfl | exact absurd rfl h

@[simp] theorem variant_setLabel (p : Panel) (m : Mode) (l : StatusLabel) :
    (p.setLabel m l).variant = p.variant := by cases m <;> rfl

@[simp] theorem region_setLabel (p : Panel) (m : Mode) (l : StatusLabel) :
    (p.setLabel m l).region = p.region := by cases m <;> rfl

@[simp] theorem alerts_setLabel (p : Panel) (m : Mode) (l : StatusLabel) :
    (p.setLabel m l).alerts = p.alerts := by cases m <;> rfl

theorem region_withLabels (p : Panel) (labels : List (Mode × String)) :
    (p.withLabels labels).region = p.region := by
  induction labels generalizing p with
  | nil => rfl
  | cons l ls ih => exact (ih _).trans (region_setLabel p l.1 _)

theorem alerts_withLabels (p : Panel) (labels : List (Mode × String)) :
    (p.withLabels labels).alerts = p.alerts := by
  induction labels generalizing p with
  | nil => rfl
  | cons l ls ih => exact (ih _).trans (alerts_setLabel p l.1 _)

/-- Labels that agree mode by mode are the two labels of the page. -/
theorem eq_of_views {p q : Panel} (hv : p.variant = q.variant) (hr : p.region = q.region)
    (hl : ∀ m, p.label m = q.label m) (ha : p.alerts = q.alerts) : p = q := by
  have hs : p.solidityLabel = q.solidityLabel := hl .solidity
  have hb : p.bytecodeLabel = q.bytecodeLabel := hl .bytecode
  obtain ⟨hh, ho⟩ := Prod.mk.inj hr
  cases p
  cases q
  simp_all

/-! ## Marking -/

theorem start_of_plain {p : Panel} (hp : p.variant = .plain) (m : Mode) :
    p.start m = { p with html := Report.placeholder, lastResponse := none } := by
  simp only [start, hp]

theorem start_of_report {p : Panel} (hp : p.variant = .report) (m : Mode) :
    p.start m = p.setLabel m (p.label m).hold := by
  simp only [start, hp]

@[simp] theorem variant_start (p : Panel) (m : Mode) : (p.start m).variant = p.variant := by
  cases hp : p.variant with
  | plain => rw [start_of_plain hp, hp]
  | report => rw [start_of_report hp, variant_setLabel, hp]

@[simp] theorem alerts_start (p : Panel) (m : Mode) : (p.start m).alerts = p.alerts := by
  cases hp : p.variant with
  | plain => rw [start_of_plain hp]
  | report => rw [start_of_report hp, alerts_setLabel]

theorem region_start (p : Panel) (m : Mode) :
    (p.start m).region =
      match p.variant with
      | .plain => (Report.placeholder, none)
      | .report => p.region := by
  cases hp : p.variant with
  | plain => rw [start_of_plain hp, region]
  | report => rw [start_of_report hp, region_setLabel]

theorem label_start_of_plain {p : Panel} (hp : p.variant = .plain) (m n : Mode) :
    (p.start m).label n = p.label n := by
  rw [start_of_plain hp]
  cases n <;> simp only [label]

theorem label_start_self {p : Panel} (hp : p.variant = .report) (m : Mode) :
    (p.start m).label m = (p.label m).hold := by
  rw [start_of_report hp, label_setLabel]

theorem label_start_of_ne (p : Panel) {m n : Mode} (h : n ≠ m) :
    (p.start m).label n = p.label n := by
  cases hp : p.variant with
  | plain => exact label_start_of_plain hp m n
  | report =>
    rw [start_of_report hp]
    exact label_setLabel_of_ne p _ h

/-! ## Giving a mark back -/

@[simp] theorem variant_release (p : Panel) (m : Mode) : (p.release m).variant = p.variant := by
  unfold release
  split <;> simp

@[simp] theorem alerts_release (p : Panel) (m : Mode) : (p.release m).alerts = p.alerts := by
  unfold release
  split <;> simp

@[simp] theorem region_release (p : Panel) (m : Mode) : (p.release m).region = p.region := by
  unfold release
  split <;> simp

theorem label_release_of_plain {p : Panel} (hp : p.variant = .plain) (m n : Mode) :
    (p.release m).label n = p.label n := by
  simp only [release, hp]

theorem label_release_self {p : Panel} (hp : p.variant = .report) (m : Mode) :
    (p.release m).label m = (p.label m).release := by
  simp only [release, hp, label_setLabel]

theorem label_release_of_ne (p : Panel) {m n : Mode} (h : n ≠ m) :
    (p.release m).label n = p.label n := by
  unfold release
  split
  · rfl
  · exact label_setLabel_of_ne p _ h

/-! ## What comes of a submission -/

theorem finish_ok (p : Panel) (m : Mode) (r : Response) :
    p.finish m (.ok r) = (.rendered, (p.release m).display r, []) := rfl

theorem finish_error (p : Panel) (m : Mode) (f : Failure) :
    p.finish m (.error f) =
      if f.raisesAlert then (.alerted, (p.release m).alert alertMessage, [])
      else (.faulted, p.release m, [faultNote m f]) := rfl

@[simp] theorem variant_display (p : Panel) (r : Response) :
    (p.display r).variant = p.variant := by
  -- the field by name: `rfl` would compare the two pages, and so their markup
  obtain ⟨v, _, _, _, _, _⟩ := p
  exact Eq.refl v

@[simp] theorem label_display (p : Panel) (r : Response) (m : Mode) :
    (p.display r).label m = p.label m := by
  obtain ⟨_, _, _, solidity, bytecode, _⟩ := p
  cases m with
  | solidity => exact Eq.refl solidity
  | bytecode => exact Eq.refl bytecode

@[simp] theorem label_alert (p : Panel) (message : String) (m : Mode) :
    (p.alert message).label m = p.label m := by cases m <;> rfl

theorem finish_state (p : Panel) (m : Mode) (result : Except Failure Response) :
    (p.finish m result).1 = .ofResult result := by
  cases result with
  | ok r => rw [finish_ok, SubmissionState.ofResult]
  | error f =>
    rw [finish_error, SubmissionState.ofResult]
    split <;> rfl

/-- On the labels, what came of a submission is only that its mark is given back. -/
theorem label_finish (p : Panel) (m n : Mode) (result : Except Failure Response) :
    (p.finish m result).2.1.label n = (p.release m).label n := by
  cases result with
  | ok r => rw [finish_ok, label_display]
  | error f =>
    rw [finish_error]
    split
    · exact label_alert _ _ n
    · rfl

@[simp] theorem variant_finish (p : Panel) (m : Mode) (result : Except Failure Response) :
    (p.finish m result).2.1.variant = p.variant := by
  cases result with
  | ok r => rw [finish_ok, variant_display, variant_release]
  | error f =>
    rw [finish_error]
    split
    · rw [alert, variant_release]
    · rw [variant_release]

/-- Only a response is written into the region. -/
theorem region_finish (p : Panel) (m : Mode) (result : Except Failure Response) :
    (p.finish m result).2.1.region =
      match result with
      | .ok r => (Report.html r, some r)
      | .error _ => p.region := by
  cases result with
  | ok r => rw [finish_ok, display, region]
  | error f =>
    rw [finish_error]
    split <;> exact region_release p m

/-- Only a failed exchange is alerted. -/
theorem alerts_finish (p : Panel) (m : Mode) (result : Except Failure Response) :
    (p.finish m result).2.1.alerts =
      p.alerts ++ if SubmissionState.ofResult result = .alerted then [alertMessage] else [] := by
  cases result with
  | ok r => simp [finish_ok, display, SubmissionState.ofResult]
  | error f =>
    simp only [finish_error, SubmissionState.ofResult]
    split <;> simp [alert]

end Panel

end TaintClient

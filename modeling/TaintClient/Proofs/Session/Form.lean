/-
  Forms that are submitted. A form holds of every element the value that was written last
  (`Form.Filled.value?_eq`). Where both elements of a mode were written, submitting the form is
  submitting those two values, section by section. Where one was not, the page is marked and the
  mark is taken back: on a plain page the placeholder stays; on a report page nothing does, because
  in every state that a session comes to each label counts who holds it, and so a hold that is
  given back leaves no trace (`StatusLabel.release_hold`).
-/
import TaintClient.Proofs.Session.LabelCount

namespace TaintClient

/-! ## What a form holds -/

/-- The value that was written last for an element, if any was. -/
def lastWritten? (written : List (String × String)) (id : String) : Option String :=
  written.reverse.lookup id

namespace Form

/-- A form that was made empty, or with the two elements of a mode, and written to since; with all
that was written, the oldest first. -/
inductive Filled : Form → List (String × String) → Prop
  | empty : Filled empty []
  | ofMode (m : Mode) (code input : String) :
    Filled (ofMode m code input) [(m.codeElement, code), (m.inputElement, input)]
  | set {f : Form} {written : List (String × String)} (h : Filled f written) (id value : String) :
    Filled (f.set id value) (written ++ [(id, value)])

variable {f : Form} {written : List (String × String)} {m : Mode} {code input : String}

/-- An element that was taken out is not found, and every other one is found as before. -/
theorem lookup_filter_ne (values : List (String × String)) (id other : String) :
    (values.filter (·.1 ≠ id)).lookup other =
      if other = id then none else values.lookup other := by
  induction values with
  | nil => simp
  | cons entry values ih =>
    obtain ⟨key, value⟩ := entry
    by_cases hkey : key = id
    · rw [List.filter_cons_of_neg (by simpa using hkey), ih]
      by_cases hother : other = id
      · rw [if_pos hother, if_pos hother]
      · have hne : (other == key) = false := by simpa [hkey] using hother
        rw [if_neg hother, if_neg hother, List.lookup_cons, hne]
    · rw [List.filter_cons_of_pos (by simpa using hkey), List.lookup_cons, List.lookup_cons, ih]
      by_cases hother : other = id
      · have hne : (other == key) = false := by simpa [hother] using Ne.symm hkey
        rw [if_pos hother, if_pos hother, hne]
      · rw [if_neg hother, if_neg hother]

/-- Writing an element changes that element and no other. -/
theorem value?_set (f : Form) (id value other : String) :
    (f.set id value).value? other = if other = id then some value else f.value? other := by
  unfold value? set
  rw [List.lookup_cons, lookup_filter_ne]
  by_cases h : other = id
  · simp [h]
  · have hne : (other == id) = false := by simpa using h
    rw [hne, if_neg h, if_neg h]

theorem lastWritten?_concat (written : List (String × String)) (id value other : String) :
    lastWritten? (written ++ [(id, value)]) other =
      if other = id then some value else lastWritten? written other := by
  unfold lastWritten?
  rw [List.reverse_append, List.reverse_singleton, List.singleton_append, List.lookup_cons]
  by_cases h : other = id
  · simp [h]
  · have hne : (other == id) = false := by simpa using h
    rw [hne, if_neg h]

/-- Of every element a form holds what was written last. -/
theorem Filled.value?_eq (h : f.Filled written) (id : String) :
    f.value? id = lastWritten? written id := by
  induction h with
  | empty => rfl
  | ofMode m code input =>
    rw [Form.ofMode, value?_set, value?_set]
    show _ = lastWritten? ([] ++ [(m.codeElement, code)] ++ [(m.inputElement, input)]) id
    rw [lastWritten?_concat, lastWritten?_concat]
    rfl
  | set _ id' value ih => rw [value?_set, lastWritten?_concat, ih]

/-- The first element of a mode that was not written: that of the code, or else that of the
input. -/
inductive FirstMissing (written : List (String × String)) (m : Mode) : String → Prop
  | code (hcode : lastWritten? written m.codeElement = none) :
    FirstMissing written m m.codeElement
  | input {code : String} (hcode : lastWritten? written m.codeElement = some code)
    (hinput : lastWritten? written m.inputElement = none) : FirstMissing written m m.inputElement

/-- Where not both elements of a mode were written, one of them is the first that was not. -/
theorem exists_firstMissing (h : lastWritten? written m.codeElement = none ∨
    lastWritten? written m.inputElement = none) : ∃ missing, FirstMissing written m missing := by
  cases hcode : lastWritten? written m.codeElement with
  | none => exact ⟨_, .code hcode⟩
  | some code => exact ⟨_, .input hcode (h.resolve_left (by simp [hcode]))⟩

theorem Filled.request_eq_ok (h : f.Filled written)
    (hcode : lastWritten? written m.codeElement = some code)
    (hinput : lastWritten? written m.inputElement = some input) :
    f.request m = .ok ⟨m, code, input, none⟩ := by
  rw [← h.value?_eq] at hcode hinput
  simp only [request, hcode, hinput]

theorem Filled.request_eq_error (h : f.Filled written) {missing : String}
    (hmissing : FirstMissing written m missing) : f.request m = .error missing := by
  cases hmissing with
  | code hcode =>
    rw [← h.value?_eq] at hcode
    simp only [request, hcode]
  | input hcode hinput =>
    rw [← h.value?_eq] at hcode hinput
    simp only [request, hcode, hinput]

end Form

/-! ## A mark that is taken back -/

/-- A label that is held once more and given back is as it was. -/
theorem StatusLabel.release_hold (text : String) (n : Nat) :
    (heldBy text n).hold.release = heldBy text n := by
  rw [hold_heldBy, release_heldBy]

namespace Panel

variable {p : Panel}

/-- On a plain page a mark that is taken back leaves the placeholder. -/
theorem release_start_of_plain (hp : p.variant = .plain) (m : Mode) :
    (p.start m).release m = { p with html := Report.placeholder, lastResponse := none } := by
  rw [start_of_plain hp, release, hp]

/-- On a report page whose labels count who holds them, it leaves nothing. -/
theorem release_start_of_report {text : Mode → String} {held : Mode → Nat}
    (hl : p.LabelsHeld text held) (hp : p.variant = .report) (m : Mode) :
    (p.start m).release m = p := by
  have hself : p.label m = .heldBy (text m) (held m) := by
    rw [hl m, hp]
  refine eq_of_views ?_ ?_ (fun n => ?_) ?_
  · rw [variant_release, variant_start]
  · rw [region_release, region_start, hp]
  · by_cases h : n = m
    · rw [h, label_release_self ((variant_start p m).trans hp), label_start_self hp, hself,
        StatusLabel.release_hold]
    · rw [label_release_of_ne _ h, label_start_of_ne p h]
  · rw [alerts_release, alerts_start]

end Panel

/-! ## Submitting a form -/

namespace Session

variable {s : Session} {m : Mode} {f : Form}

theorem submitForm_of_ok {r : Request} (h : f.request m = .ok r) :
    s.submitForm m f = (((s.mark m).dispatch r).1, .ok ((s.mark m).dispatch r).2) := by
  simp only [submitForm, h]

theorem submitForm_of_error {missing : String} (h : f.request m = .error missing) :
    s.submitForm m f = ((s.mark m).unmark m, .error (.missingElement missing)) := by
  simp only [submitForm, h]

end Session

namespace Interleaving

variable {w : Interleaving} {endpoint : Url} {policy : ResubmitPolicy} {sections : List Section}

/-- **Submitting a form.** In every state that a session comes to, on a page that began without
submissions: a form to which both elements of the mode were written is submitted exactly as the two
values that were written last, whatever else the form holds and whoever interrupts the call, and
its request names no contract. Any other form is refused with the first of the two elements that
was not written; nothing is dispatched, and nothing but the page changes. A report page is as it
was, and of a plain page only the region changed, which shows the placeholder. -/
theorem submitForm_of_filled {variant : PageVariant} {labels : List (Mode × String)}
    (h : (start endpoint policy ((Panel.fresh variant).withLabels labels)).run sections = some w)
    {f : Form} {written : List (String × String)} (hf : f.Filled written) (m : Mode) :
    (∀ code input, lastWritten? written m.codeElement = some code →
      lastWritten? written m.inputElement = some input →
      w.session.submitForm m f =
        ((w.session.submitAnalysis m code input).1,
          .ok (w.session.submitAnalysis m code input).2) ∧
      (w.session.submitForm m f).1.request? w.session.submissions.length =
        some ⟨m, code, input, none⟩ ∧
      (w.session.submitForm m f).1.submissions.length = w.session.submissions.length + 1 ∧
      ∀ s : Session, s.mark (Call.submitForm m f).mode =
          s.mark (Call.submitAnalysis m code input).mode ∧
        s.proceed (.marked (.submitForm m f)) =
          s.proceed (.marked (.submitAnalysis m code input))) ∧
    ((lastWritten? written m.codeElement = none ∨ lastWritten? written m.inputElement = none) →
      ∃ missing panel, Form.FirstMissing written m missing ∧
        w.session.submitForm m f =
          ({ w.session with panel := panel }, .error (.missingElement missing)) ∧
        w.run (wholeCall (.submitForm m f) w.calls.length) =
          some { w.setSession { w.session with panel := panel } with
            calls := w.calls ++ [.returned] } ∧
        (variant = .report → panel = w.session.panel) ∧
        (variant = .plain → panel =
          { w.session.panel with html := Report.placeholder, lastResponse := none })) := by
  have hacc := accounted_of_run (Panel.atRest_withLabels (Panel.atRest_fresh variant) labels) h
  have hv : w.session.panel.variant = variant :=
    hacc.variant.trans (Panel.variant_withLabels _ labels)
  refine ⟨fun code input hcode hinput => ?_, fun hother => ?_⟩
  · have hr := hf.request_eq_ok hcode hinput
    have hsame : w.session.submitForm m f = ((w.session.submitAnalysis m code input).1,
        .ok (w.session.submitAnalysis m code input).2) := Session.submitForm_of_ok hr
    refine ⟨hsame, ?_, ?_, fun s => ⟨rfl, ?_⟩⟩
    · rw [hsame]
      exact (Session.request?_dispatch _ _ _).trans (if_pos rfl)
    · rw [hsame]
      exact Session.length_dispatch _ _
    · have hcall : (Call.submitForm m f).request = .ok ⟨m, code, input, none⟩ := hr
      simp only [Session.proceed, hcall]
      rfl
  · obtain ⟨missing, hmissing⟩ := Form.exists_firstMissing hother
    have hr := hf.request_eq_error hmissing
    refine ⟨missing, (w.session.panel.start m).release m, hmissing,
      Session.submitForm_of_error hr, ?_, fun hreport => ?_, fun hplain => ?_⟩
    · rw [run_wholeCall, Session.call_of_error _ (c := .submitForm m f) hr]
      rfl
    · exact Panel.release_start_of_report hacc.labels (hv.trans hreport) m
    · exact Panel.release_start_of_plain (hv.trans hplain) m

/-- A submission of source that is launched, on a page with a label of its own. -/
def launchedOnce : List Section :=
  [.mark (.submit ⟨.solidity, "a", "", none⟩), .proceed 0, .proceed 0, .proceed 0]

/-- A form for bytecode on which the code of a source was written, and then written again. -/
def overwritten : Form :=
  ((Form.ofMode .bytecode "60" "").set "solidity" "contract A \x7b\x7d").set "solidity" "contract B"

/-- While a submission of its mode is under way, a form without the input of a source is refused,
and leaves the page as it is; with the input, its last code is submitted. -/
theorem submitForm_overwritten :
    ∃ w, (start { scheme := "http", path := .rooted [] } .cancelPrevious
        ((Panel.fresh .report).withLabels [(.solidity, "Check")])).run launchedOnce = some w ∧
      (w.session.panel.label .solidity).inFlight = 1 ∧
      w.session.submitForm .solidity overwritten =
        (w.session, .error (.missingElement "solidity_input")) ∧
      (w.session.submitForm .solidity (overwritten.set "solidity_input" "00")).1.request? 1 =
        some ⟨.solidity, "contract B", "00", none⟩ := by
  obtain ⟨w, h, hheld, hlength⟩ :
      ∃ w, (start { scheme := "http", path := .rooted [] } .cancelPrevious
          ((Panel.fresh .report).withLabels [(.solidity, "Check")])).run launchedOnce = some w ∧
        (w.session.panel.label .solidity).inFlight = 1 ∧
        w.session.submissions.length = 1 := ⟨_, rfl, rfl, rfl⟩
  have hf : overwritten.Filled _ :=
    .set (.set (.ofMode .bytecode "60" "") "solidity" "contract A \x7b\x7d") "solidity" "contract B"
  obtain ⟨missing, panel, hmissing, hrefused, _, hreport, _⟩ :=
    (submitForm_of_filled h hf .solidity).2 (by decide)
  obtain ⟨_, hrequest, _⟩ :=
    (submitForm_of_filled h (hf.set "solidity_input" "00") .solidity).1 "contract B" "00"
      (by decide) (by decide)
  rw [hlength] at hrequest
  refine ⟨w, h, hheld, ?_, hrequest⟩
  rw [hrefused, hreport rfl]
  cases hmissing with
  | code hcode => exact absurd hcode (by decide)
  | input _ _ => rfl

end Interleaving

end TaintClient

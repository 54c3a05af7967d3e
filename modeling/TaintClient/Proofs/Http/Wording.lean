/-
  What is said of a fetch is said on one line, whatever the service answers. A fault names a URL,
  which is that of the first request or one that an answer led to; such a URL is read against the
  one before, so it is as printable as the first. A status is named by its number and by words of
  a fixed list.
-/
import TaintClient.Proofs.Http.Trail
import TaintClient.Proofs.Url.Printable

namespace TaintClient.Http

open Text (OneLine)

variable {first url : Url} {n : Nat} {q : Request} {a : Answer} {method : Method}
  {visits : List Visit} {result : Except Fault Answer} {f : Fault}

/-! ## Faults -/

/-- Whether the URL that a fault names, if it names one, is printable. -/
def Fault.IsPrintable (f : Fault) : Prop := ∀ u ∈ f.url?, u.IsPrintable

theorem Fault.isPrintable_of_url? (h : f.url? = some url) (hurl : url.IsPrintable) :
    f.IsPrintable := by
  intro u hu
  obtain rfl : url = u := Option.some.inj (h.symm.trans hu)
  exact hurl

/-- A place that an answer to a request names is as printable as where the request went. -/
theorem Request.isPrintable_place? (hq : q.url.IsPrintable) (h : q.place? a = some url) :
    url.IsPrintable := by
  obtain ⟨hplace, -⟩ := Option.filter_eq_some_iff.mp h
  obtain ⟨s, -, hs⟩ := Option.bind_eq_some_iff.mp hplace
  exact hq.join (toOption_eq_some.mp hs)

/-- Where an answer to a request leads is as printable as where the request went. -/
theorem Request.isPrintable_next? (hq : q.url.IsPrintable) (h : q.next? a = some (method, url)) :
    url.IsPrintable := by
  unfold next? at h
  split at h
  · cases h
  · rename_i place hplace
    have hnext := (isPrintable_place? hq hplace).withoutFragment
    dsimp only at h
    split at h
    · cases h
      exact hnext
    · split at h
      · cases h
        exact hnext
      · cases h

/-- A fetch from a printable URL fails only with faults that name one. -/
theorem Trail.failsWith (t : Trail first n q visits result) (hfirst : first.IsPrintable)
    (hq : q.url.IsPrintable) : FailsWith Fault.IsPrintable result := by
  induction t with
  | refused | lost | late => exact failsWith_error (Fault.isPrintable_of_url? rfl hfirst)
  | final => exact failsWith_ok _
  | tooMany => exact failsWith_error (Fault.isPrintable_of_url? rfl hq)
  | unsendable h _ =>
    have hnext := Request.isPrintable_next? hq h
    exact failsWith_error (Fault.isPrintable_of_url? rfl hnext)
  | follow h _ _ ih => exact ih (Request.isPrintable_next? hq h)

theorem oneLine_kind (k : FaultKind) : OneLine k.text.toList := by
  cases k <;> decide

theorem oneLine_event (f : Fault) : OneLine f.event.toList := by
  cases f <;> dsimp only [Fault.event] <;> decide

/-- A fault that names a printable URL is worded on one line. -/
theorem Fault.IsPrintable.oneLine (h : f.IsPrintable) : OneLine f.message.toList := by
  unfold message
  split
  · rename_i u hu
    simp only [String.toList_append, Text.oneLine_append]
    exact ⟨⟨⟨oneLine_event f, by decide⟩, (h u hu).oneLine⟩, by decide⟩
  · exact oneLine_event f

/-! ## Statuses -/

theorem oneLine_reasons : ∀ entry ∈ Status.reasons, OneLine entry.2.toList := by
  decide +kernel

/-- A status is worded on one line, whatever its number. -/
theorem Status.oneLine (s : Status) : OneLine s.text.toList := by
  have hreason : OneLine s.reason.toList := by
    unfold reason
    cases h : reasons.lookup s.code with
    | none => decide
    | some words =>
      obtain ⟨before, behind, hentry, _⟩ := List.lookup_eq_some_iff.mp h
      exact oneLine_reasons (s.code, words) (hentry ▸ List.mem_append_right _ List.mem_cons_self)
  simp only [text, String.toList_append, Text.oneLine_append]
  exact ⟨⟨Text.oneLine_toString s.code, by decide⟩, hreason⟩

end TaintClient.Http

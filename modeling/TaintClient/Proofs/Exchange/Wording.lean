/-
  What is noted of an exchange, and what its failure is worded as, is of one line, whatever the
  service does. What it may choose reaches a note in three ways: as the status, as a place that it
  leads on to, and as the body that is told of where it is no response. The submission itself is
  noted by its mode and by its lengths only.
-/
import TaintClient.Proofs.Exchange.Result
import TaintClient.Proofs.Http.Wording
import TaintClient.Proofs.Response.Wording

namespace TaintClient

open Text (OneLine oneLine_append oneLine_toString)

/-- Whether the message of a note is of one line. -/
def Log.Record.OneLine (n : Log.Record) : Prop := Text.OneLine n.message.toList

/-- Whether the wording of a failure is of one line. -/
def Failure.OneLine (f : Failure) : Prop := Text.OneLine f.message.toList

theorem Mode.oneLine_name (m : Mode) : Text.OneLine m.name.toList := by
  cases m <;> decide

namespace Exchange

variable {u : Url} {f : Http.Fault}

/-- What is noted of an exchange, and what its failure is worded as, is of one line. -/
structure Outcome.OneLine (o : Outcome) : Prop where
  notes : ∀ n ∈ o.notes, n.OneLine
  failure : FailsWith Failure.OneLine o.result

/-! ## Notes -/

theorem oneLine_submitting (hu : u.IsPrintable) (r : Request) : (submitting u r).OneLine := by
  simp only [Log.Record.OneLine, submitting, note, String.toList_append, oneLine_append]
  exact ⟨⟨⟨⟨⟨⟨⟨by decide, r.mode.oneLine_name⟩, by decide⟩, oneLine_toString _⟩, by decide⟩,
    oneLine_toString _⟩, by decide⟩, hu.oneLine⟩

theorem oneLine_unanswered (hu : u.IsPrintable) (hf : f.IsPrintable) :
    (unanswered u f).OneLine := by
  simp only [Log.Record.OneLine, unanswered, note, String.toList_append, oneLine_append]
  exact ⟨⟨⟨⟨Http.oneLine_kind _, by decide⟩, hu.oneLine⟩, by decide⟩, hf.oneLine⟩

theorem oneLine_refused (hu : u.IsPrintable) (s : Http.Status) : (refused u s).OneLine := by
  simp only [Log.Record.OneLine, refused, note, String.toList_append, oneLine_append]
  exact ⟨⟨⟨by decide, hu.oneLine⟩, by decide⟩, s.oneLine⟩

theorem oneLine_received (r : Response) : (received r).OneLine := by
  have hkind : OneLine (if r.isReport then "colored" else "plain").toList := by
    split <;> decide
  simp only [Log.Record.OneLine, received, note, String.toList_append, oneLine_append]
  exact ⟨⟨⟨⟨by decide, hkind⟩, by decide⟩, oneLine_toString _⟩, by decide⟩

/-! ## Failures -/

theorem oneLine_transport (hf : f.IsPrintable) : (Failure.transport f).OneLine := by
  unfold Failure.OneLine Failure.message
  simp only [String.toList_append, oneLine_append]
  exact ⟨by decide, hf.oneLine⟩

theorem oneLine_status (s : Http.Status) : (Failure.status s).OneLine := by
  unfold Failure.OneLine Failure.message
  simp only [String.toList_append, oneLine_append]
  exact ⟨by decide, s.oneLine⟩

theorem oneLine_malformedBody {s : String} {f : Json.Fault} (h : Response.decode s = .error f) :
    (Failure.malformedBody f).OneLine := by
  unfold Failure.OneLine Failure.message
  simp only [String.toList_append, oneLine_append, String.toList_ofList]
  exact ⟨by decide, Response.oneLine_of_decode h⟩

/-! ## The exchange -/

theorem oneLine_read (hu : u.IsPrintable) (a : Http.Answer) : (read u a).OneLine := by
  unfold read
  split
  · exact ⟨List.forall_mem_singleton.mpr (oneLine_refused hu _), failsWith_error (oneLine_status _)⟩
  · split
    · rename_i f hf
      -- a body that breaks off is told of without a URL
      have hbroken : f = .brokenBody := by
        unfold Http.Answer.text at hf
        split at hf
        · cases hf
        · exact (Except.error.inj hf).symm
      subst hbroken
      exact ⟨List.forall_mem_nil _, failsWith_error (oneLine_transport nofun)⟩
    · split
      · rename_i f hf
        exact ⟨List.forall_mem_nil _, failsWith_error (oneLine_malformedBody hf)⟩
      · exact ⟨List.forall_mem_singleton.mpr (oneLine_received _), failsWith_ok _⟩

/-- A fetch for a submission fails only with faults that name a printable URL. -/
theorem failsWith_fetch {σ : Type} (service : Http.Service σ) (s : σ) (hu : u.IsPrintable)
    (r : Request) : FailsWith Http.Fault.IsPrintable
      ((Http.fetch service.observed (httpRequest u r)).run (s, [])).1 := by
  have hq : (httpRequest u r).url.IsPrintable := by
    rw [httpRequest_eq]
    unfold Http.credentials
    split
    · exact hu
    · dsimp only
      split_ifs
      exacts [hu, hu.withoutUserinfo, hu, hu.withoutUserinfo]
  unfold Http.fetch
  cases hs : Http.isSendable (httpRequest u r).url with
  | false => exact failsWith_error (Http.Fault.isPrintable_of_url? rfl hq)
  | true =>
    obtain ⟨visits, result, s', hrun, t⟩ := Http.exists_trail service (httpRequest u r).url
      Http.maxRedirects (httpRequest u r) s []
    rw [if_pos rfl, hrun]
    exact t.failsWith hq hq

/-- **An exchange is told of on one line each.** Whatever the service answers to a submission at a
printable endpoint, each note on the exchange and the wording of its failure are of one line. -/
theorem oneLine_analyze {σ : Type} (service : Http.Service σ) (s : σ) (hu : u.IsPrintable)
    (r : Request) : ((analyze service.observed u r).run (s, [])).1.OneLine := by
  have hfetch := failsWith_fetch service s hu r
  unfold analyze
  rw [StateT.run_bind]
  generalize (Http.fetch service.observed (httpRequest u r)).run (s, []) = fetched at hfetch ⊢
  obtain ⟨fetched | a, x⟩ := fetched
  · have hf := hfetch fetched rfl
    exact ⟨List.forall_mem_cons.mpr ⟨oneLine_submitting hu r,
      List.forall_mem_singleton.mpr (oneLine_unanswered hu hf)⟩,
      failsWith_error (oneLine_transport hf)⟩
  · have ha := oneLine_read hu a
    exact ⟨List.forall_mem_cons.mpr ⟨oneLine_submitting hu r, ha.notes⟩, ha.failure⟩

end Exchange

end TaintClient

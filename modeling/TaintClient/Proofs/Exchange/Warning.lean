/-
  Which exchanges are warned of. A failure that alerts the user should leave one warning that says
  why, and nothing else should leave one (`IsWarned`). That is so of every exchange but one kind: a
  success whose body breaks off fails like a request without an answer, and no warning is left of it
  (`warned_iff_unbroken`). The warning stands where the request is sent; the body is read behind it.
-/
import TaintClient.Proofs.Exchange.Result

namespace TaintClient.Exchange

open Http (Answer finalAnswer?)

/-! ## Warnings -/

/-- The warnings among notes. -/
def warnings (notes : List Log.Record) : List Log.Record := notes.filter (·.level = .warn)

/-- The warnings that should be left of what an exchange comes to: one for a failure that alerts,
which begins with the kind of the fault or names the status, and none otherwise. -/
inductive IsWarned : Except Failure Response → List Log.Record → Prop
  | report (r : Response) : IsWarned (.ok r) []
  | malformedBody (f : Json.Fault) : IsWarned (.error (.malformedBody f)) []
  | transport {f : Http.Fault} {n : Log.Record} (reason : String)
      (h : n.message = f.kind.text ++ reason) : IsWarned (.error (.transport f)) [n]
  | status {s : Http.Status} {n : Log.Record} (place : String)
      (h : n.message = place ++ s.text) : IsWarned (.error (.status s)) [n]

theorem warnings_submitting (u : Url) (r : Request) (notes : List Log.Record) :
    warnings (submitting u r :: notes) = warnings notes := rfl

/-- A request without an answer is warned of. -/
theorem isWarned_unanswered (u : Url) (f : Http.Fault) :
    IsWarned (.error (.transport f)) (warnings [unanswered u f]) := by
  refine .transport (" for " ++ toString u ++ ": " ++ f.message) ?_
  simp only [unanswered, note, String.append_assoc]

/-- An answer that is no success is warned of. -/
theorem isWarned_refused (u : Url) (s : Http.Status) :
    IsWarned (.error (.status s)) (warnings [refused u s]) :=
  .status ("Analysis service at " ++ toString u ++ " answered ") rfl

/-- A success whose body broke off comes to a fault, without a note. -/
theorem read_of_broken {u : Url} {a : Answer} (hs : a.status = .ok) (hw : a.isWhole = false) :
    read u a = ⟨.error (.transport .brokenBody), []⟩ := by
  unfold read Answer.text
  rw [if_neg (not_not_intro hs), hw]
  rfl

/-- What is read from an answer is warned of as it should be, unless its body broke off. -/
theorem isWarned_read {u : Url} {a : Answer} (h : a.status = .ok → a.isWhole = true) :
    IsWarned (read u a).result (warnings (read u a).notes) := by
  unfold read
  split
  · exact isWarned_refused u a.status
  · rename_i hs
    have hw : a.isWhole = true := h (not_not.mp hs)
    unfold Answer.text
    rw [hw, if_pos rfl]
    dsimp only
    split
    · exact .malformedBody _
    · exact .report _

/-! ## Exchanges -/

/-- What comes of a fetch, and what is noted of it behind the note on the submission. -/
def afterFetch (u : Url) : Except Http.Fault Answer → Outcome
  | .error f => ⟨.error (.transport f), [unanswered u f]⟩
  | .ok a => read u a

/-- An exchange is a fetch and what comes of it. -/
theorem run_analyze {σ : Type} {service : Http.Service σ} {s s' : σ} {u : Url} {r : Request}
    {fetched : Except Http.Fault Answer} {visits : List Http.Visit}
    (h : (Http.fetch service.observed (httpRequest u r)).run (s, []) = (fetched, s', visits)) :
    (analyze service.observed u r).run (s, []) =
      (⟨(afterFetch u fetched).result, submitting u r :: (afterFetch u fetched).notes⟩, s',
        visits) := by
  unfold analyze
  rw [StateT.run_bind, h]
  cases fetched <;> rfl

/-- **The warnings on an exchange.** Whatever the service does, an exchange leaves the warnings that
it should if and only if its final answer, if there is one and it is a success, came with its whole
body. Where the body broke off, the exchange comes to a fault that alerts the user, and leaves no
warning. -/
theorem warned_iff_unbroken {σ : Type} (service : Http.Service σ) (s : σ) (endpoint : Url)
    (r : Request) :
    ∃ outcome s' visits, (analyze service.observed endpoint r).run (s, []) = (outcome, s', visits) ∧
      (IsWarned outcome.result (warnings outcome.notes) ↔
        ∀ a, finalAnswer? visits = some a → a.status = .ok → a.isWhole = true) ∧
      ∀ a, finalAnswer? visits = some a → a.status = .ok → a.isWhole = false →
        outcome.result = .error (.transport .brokenBody) ∧ warnings outcome.notes = [] := by
  obtain ⟨fetched, s', visits, hrun, -, hfinal⟩ := exists_fetch service s endpoint r
  refine ⟨_, s', visits, run_analyze hrun, ?_⟩
  rw [← hfinal, warnings_submitting]
  cases fetched with
  | error f => exact ⟨iff_of_true (isWarned_unanswered endpoint f) nofun, nofun⟩
  | ok a =>
    have hbroken : a.status = .ok → a.isWhole = false →
        (read endpoint a).result = .error (.transport .brokenBody) ∧
          warnings (read endpoint a).notes = [] := by
      intro hs hw
      rw [read_of_broken hs hw]
      exact ⟨rfl, rfl⟩
    refine ⟨⟨fun h b hb hs => ?_, fun h => isWarned_read (h a rfl)⟩, fun b hb => ?_⟩
    · obtain rfl := Option.some_inj.mp hb
      rw [← Bool.not_eq_false]
      intro hw
      obtain ⟨hresult, hnotes⟩ := hbroken hs hw
      have hnone : IsWarned (.error (.transport .brokenBody)) [] := by
        rw [← hresult, ← hnotes]
        exact h
      cases hnone
    · obtain rfl := Option.some_inj.mp hb
      exact hbroken

/-- A service that breaks off within the body of a success. -/
def interrupted : Http.Service Nat :=
  Http.scripted fun _ => some (.answer { status := .ok, isWhole := false })

/-- The exchange with it fails on the way, and is not warned of. -/
theorem not_warned_of_interrupted :
    let home : Url :=
      { scheme := "http", host := some (.domain "localhost".toList), path := .rooted [[]] }
    let run := (analyze interrupted.observed home ⟨.bytecode, "60", "", none⟩).run (0, [])
    run.1.result = .error (.transport .brokenBody) ∧ warnings run.1.notes = [] ∧
      ¬ IsWarned run.1.result (warnings run.1.notes) := by
  intro home run
  have hsendable : Http.isSendable (httpRequest home ⟨.bytecode, "60", "", none⟩).url = true := by
    decide +kernel
  have hfetch : (Http.fetch interrupted.observed
      (httpRequest home ⟨.bytecode, "60", "", none⟩)).run (0, []) =
      (.ok { status := .ok, isWhole := false }, 1, [(httpRequest home ⟨.bytecode, "60", "", none⟩,
        .answer { status := .ok, isWhole := false })]) := by
    unfold Http.fetch
    rw [if_pos hsendable, Http.fetchFrom]
    rfl
  have hrun : run = _ := run_analyze hfetch
  have hresult : run.1.result = .error (.transport .brokenBody) := by
    rw [hrun, afterFetch, read_of_broken rfl rfl]
  have hnotes : warnings run.1.notes = [] := by
    rw [hrun, warnings_submitting, afterFetch, read_of_broken rfl rfl]
    rfl
  refine ⟨hresult, hnotes, fun h => ?_⟩
  rw [hresult, hnotes] at h
  cases h

end TaintClient.Exchange

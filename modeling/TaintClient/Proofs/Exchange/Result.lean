/-
  What one exchange sends, and what it comes to, whatever the service does.

  The service may answer anything, lead on in circles, break off or never answer (`Http.Service`).
  `Sent` says what it sees of one exchange: at most eleven requests, of which the first one only has
  a body, with the fields of the submission. `Classified` says what the exchange comes to: one of
  four classes, told from the final answer (`Http.finalAnswer?`) alone.

  That an exchange comes to an end at all is part of the main statement: it speaks of the run, which
  is a function of the service and its state. What is assumed of the transport is in `Http.fetch`,
  in `Http.Request.next?` with the places that it takes (`Http.Uri.isUri`), and in
  `Http.Service.observed`, where the time runs out on a service that never answers.
-/
import Mathlib.Tactic.SplitIfs
import TaintClient.Exchange
import TaintClient.Proofs.Http.Trail

namespace TaintClient.Exchange

open Http (Visit Answer finalAnswer? LeadsTo)

/-! ## What is sent -/

/-- The field of a contract's name: one if there is a name, also an empty one. -/
def nameField : Option String → List (String × String)
  | none => []
  | some name => [("name", name)]

/-- What the service sees of one exchange. -/
structure Sent (endpoint : Url) (r : Request) (visits : List Visit) : Prop where
  length_le : visits.length ≤ 11
  /-- Nothing is sent exactly where the endpoint cannot be asked for. -/
  nil_iff : visits = [] ↔ Http.isSendable (httpRequest endpoint r).url = false
  /-- The first request brings the submission to the endpoint, its values as they are. -/
  first : ∀ v ∈ visits.head?, v.1.method = .post
    ∧ v.1.url.withoutUserinfo = endpoint.withoutUserinfo
    ∧ v.1.fields = some ([("type", r.mode.name), ("code", r.code), ("input", r.input)]
      ++ nameField r.contractName)
  /-- No other request has a body. -/
  later : ∀ v ∈ visits.tail, v.1.method = .get ∧ v.1.fields = none
  /-- Each other request goes where the answer before leads. -/
  chain : visits.IsChain fun v w => LeadsTo v w.1
  /-- Where an answer leads on, it is followed, up to ten times. -/
  ends : visits.length = 11 ∨ ∀ v ∈ visits.getLast?, ∀ q, ¬ LeadsTo v q

/-- The credentials of a URL are all that it may be sent without. -/
theorem withoutUserinfo_credentials (u : Url) :
    (Http.credentials u).2.withoutUserinfo = u.withoutUserinfo := by
  unfold Http.credentials
  cases Http.plainPart? u.username with
  | none => rfl
  | some username =>
    dsimp only
    split_ifs
    exacts [rfl, rfl, rfl, rfl]

/-- The request of an exchange, part by part. -/
theorem httpRequest_eq (u : Url) (r : Request) :
    httpRequest u r = ⟨.post, (Http.credentials u).2, (Http.credentials u).1, some r.fields⟩ := by
  unfold httpRequest Http.Request.ofUrl
  cases Http.credentials u
  rfl

/-- The fields of a submission, the name of a contract behind the others. -/
theorem fields_eq (r : Request) :
    r.fields = [("type", r.mode.name), ("code", r.code), ("input", r.input)]
      ++ nameField r.contractName := by
  unfold Request.fields
  cases r.contractName <;> rfl

/-- A trail from the request of a submission is what may be sent. -/
theorem sent_of_trail {u first : Url} {r : Request} {visits : List Visit}
    {result : Except Http.Fault Answer} (hs : Http.isSendable (httpRequest u r).url = true)
    (t : Http.Trail first Http.maxRedirects (httpRequest u r) visits result) :
    Sent u r visits where
  length_le := t.length_le
  nil_iff := by
    obtain ⟨reply, rest, rfl⟩ := t.starts
    simp [hs]
  first := by
    obtain ⟨reply, rest, rfl⟩ := t.starts
    intro v hv
    obtain rfl := Option.some.inj hv
    rw [httpRequest_eq, fields_eq]
    exact ⟨rfl, withoutUserinfo_credentials u, rfl⟩
  later := t.isBare (by rw [httpRequest_eq]; nofun)
  chain := t.isChain
  ends := by
    obtain hl | hl := Nat.lt_or_ge visits.length 11
    · obtain ⟨v, hv, hlast⟩ := t.ends (Nat.le_of_lt_succ hl)
      refine .inr fun w hw => ?_
      obtain rfl : v = w := Option.some.inj (hv.symm.trans hw)
      exact hlast
    · exact .inl (Nat.le_antisymm t.length_le hl)

/-- Nothing may be sent where the endpoint cannot be asked for. -/
theorem sent_nil {u : Url} {r : Request}
    (hs : Http.isSendable (httpRequest u r).url = false) : Sent u r [] where
  length_le := Nat.zero_le _
  nil_iff := by simp [hs]
  first := by simp
  later := by simp
  chain := .nil
  ends := by simp

/-! ## What comes of it -/

/-- The body of an answer read as a response. -/
def bodyOf (a : Answer) : Except Json.Fault Response :=
  Response.decode (String.ofList (Text.Utf8.decodeLossy a.body))

/-- What is read from an answer: its status counts first, then whether it is whole. -/
theorem read_result (endpoint : Url) (a : Answer) :
    (read endpoint a).result =
      if a.status = .ok then
        if a.isWhole then (bodyOf a).mapError .malformedBody else .error (.transport .brokenBody)
      else .error (.status a.status) := by
  unfold read Answer.text bodyOf
  by_cases hs : a.status = .ok
  · rw [if_neg (not_not_intro hs), if_pos hs]
    cases a.isWhole with
    | false => rfl
    | true =>
      rw [if_pos rfl, if_pos rfl]
      dsimp only
      cases Response.decode (String.ofList (Text.Utf8.decodeLossy a.body)) <;> rfl
  · rw [if_pos hs, if_neg hs]

/-- A fetch sends what may be sent, and gives the final answer. -/
theorem exists_fetch {σ : Type} (service : Http.Service σ) (s : σ) (u : Url) (r : Request) :
    ∃ result s' visits, (Http.fetch service.observed (httpRequest u r)).run (s, [])
        = (result, s', visits) ∧ Sent u r visits ∧ result.toOption = finalAnswer? visits := by
  unfold Http.fetch
  cases hs : Http.isSendable (httpRequest u r).url with
  | false => exact ⟨_, s, [], rfl, sent_nil hs, rfl⟩
  | true =>
    obtain ⟨visits, result, s', hrun, t⟩ := Http.exists_trail service (httpRequest u r).url
      Http.maxRedirects (httpRequest u r) s []
    exact ⟨result, s', visits, hrun, sent_of_trail hs t, t.toOption_eq⟩

/-- What an exchange notes is at most a warning. -/
theorem level_notes {σ : Type} (service : Http.Service σ) (s : σ) (endpoint : Url)
    (r : Request) :
    ∀ n ∈ ((analyze service.observed endpoint r).run (s, [])).1.notes, n.level ≠ .error := by
  obtain ⟨fetched, s', visits, hrun, _, _⟩ := exists_fetch service s endpoint r
  unfold analyze
  rw [StateT.run_bind, hrun]
  refine List.forall_mem_cons.mpr ⟨nofun, ?_⟩
  cases fetched with
  | error f => exact List.forall_mem_singleton.mpr nofun
  | ok a =>
    show ∀ n ∈ (read endpoint a).notes, _
    unfold read
    split
    · exact List.forall_mem_singleton.mpr nofun
    · split
      · nofun
      · split
        · nofun
        · exact List.forall_mem_singleton.mpr nofun

/-- A service that leads on without an end is asked eleven times, and the last answer is as little
the final one as the others. -/
example :
    let home : Url :=
      { scheme := "http", host := some (.domain "localhost".toList), path := .rooted [[]] }
    let answers := fun _ => some (.answer { status := ⟨302⟩, location := some "/api/analyze" })
    let run := (analyze (Http.scripted answers).observed home ⟨.solidity, "", "", none⟩).run (0, [])
    run.2.2.length = 11 ∧ (finalAnswer? run.2.2).isNone := by
  decide +kernel

/-- An answer that names a place which no server can have is the final one. -/
example :
    let home : Url :=
      { scheme := "http", host := some (.domain "localhost".toList), path := .rooted [[]] }
    let answers := fun _ =>
      some (.answer { status := ⟨302⟩, location := some "http://a\x7bb/" })
    let run := (analyze (Http.scripted answers).observed home ⟨.solidity, "", "", none⟩).run (0, [])
    run.2.2.length = 1 ∧ (finalAnswer? run.2.2).isSome := by
  decide +kernel

end TaintClient.Exchange

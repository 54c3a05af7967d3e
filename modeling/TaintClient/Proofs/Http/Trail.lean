/-
  Which requests a service sees of one fetch, and what the fetch comes to.

  A service is anything that makes of each request a reply or none, and it may keep a state of its
  own, so its answers can depend on all that was sent before. `observed` is the connection to it:
  where the service never answers, the time runs out. Beside the result, a run has the list of the
  visits, each request with what became of it.

  `Trail` says which lists of visits and which results the redirect policy allows, one constructor
  for each way in which a visit can end or lead on. A run of `fetchFrom` makes a trail
  (`exists_trail`), and what is said of the visits and of the result is proved of every trail, by
  induction on it. The final answer of a list of visits (`finalAnswer?`) is the first one that leads
  nowhere; it is the answer that the fetch gives, and without one the fetch has failed
  (`Trail.toOption_eq`).
-/
import Mathlib.Data.List.Chain
import TaintClient.Http.Fetch

namespace TaintClient.Http

/-- What a service makes of a request; `none` if it never answers. -/
abbrev Service (σ : Type) := Request → StateM σ (Option Reply)

/-- A request that reached a service, and what became of it. -/
abbrev Visit := Request × Reply

/-- The service that goes through a script, whatever it is asked. A script that ends is one of
`none` from there on. -/
def scripted (answers : Nat → Option Reply) : Service Nat := fun _ => modifyGet fun n =>
  (answers n, n + 1)

/-- Sends a request to a service, with the time running, and writes down the visit. -/
def Service.observed {σ : Type} (service : Service σ) (q : Request) :
    StateM (σ × List Visit) Reply :=
  modifyGet fun (s, seen) =>
    let (reply?, s) := (service q).run s
    let reply := reply?.getD .late
    (reply, s, seen ++ [(q, reply)])

/-! ## Where an answer leads -/

/-- Whether an answer to a request is a redirect that is followed: it names a place that can be
read, and asks to go there with a fresh request, or with the same one where that has no body. -/
def Request.leadsOn (q : Request) (a : Answer) : Bool :=
  a.location.any (fun place => (q.url.join place).toOption.any Uri.isUri)
    && (a.status.code ∈ [301, 302, 303] || a.status.code ∈ [307, 308] && q.fields.isNone)

/-- The first answer among the visits that is no redirect to be followed. -/
def finalAnswer? : List Visit → Option Answer
  | [] => none
  | (q, .answer a) :: visits => if q.leadsOn a then finalAnswer? visits else some a
  | _ :: visits => finalAnswer? visits

/-- A request without a body that asks for a place and nothing else. -/
def Request.IsBare (q : Request) : Prop := q.method = .get ∧ q.fields = none

/-- A visit whose answer leads to a request. It is one to a place of the web. -/
def LeadsTo (v : Visit) (q : Request) : Prop :=
  ∃ a method url, v.2 = .answer a ∧ v.1.next? a = some (method, url) ∧ Url.IsWeb url.scheme
    ∧ q = v.1.follow method url

/-- An answer leads on exactly if there is a request that it leads to. -/
theorem Request.leadsOn_eq (q : Request) (a : Answer) : q.leadsOn a = (q.next? a).isSome := by
  have hplace : a.location.any (fun place => (q.url.join place).toOption.any Uri.isUri) =
      (q.place? a).isSome := by
    rw [place?, Option.isSome_filter, Option.any_bind]
    rfl
  rw [leadsOn, hplace, next?]
  cases q.place? a with
  | none => rfl
  | some url =>
    simp only [Option.isSome_some, Bool.true_and, List.mem_cons, List.not_mem_nil, or_false]
    split
    · next h => simp [h]
    · next h => split <;> simp_all [Option.isSome_iff_ne_none]

/-- A redirect is followed without a body, and by another method than asking for the place only
if the request before had no body and was sent so. -/
theorem Request.follow_isBare {q : Request} {a : Answer} {method : Method} {url : Url}
    (hq : q.fields = none → q.method = .get) (h : q.next? a = some (method, url)) :
    (q.follow method url).IsBare := by
  refine ⟨?_, rfl⟩
  change method = .get
  unfold next? at h
  split at h
  · cases h
  · dsimp only at h
    split at h
    · exact (congrArg Prod.fst (Option.some.inj h)).symm
    · split at h
      · next hc =>
        have hm : q.method = method := congrArg Prod.fst (Option.some.inj h)
        rw [← hm]
        exact hq (Option.isNone_iff_eq_none.mp hc.2)
      · cases h

/-! ## Trails -/

/-- The visits and the result that the policy allows from a request on, if answers may lead on `n`
times. Faults of a connection are reported for the URL `first`. -/
inductive Trail (first : Url) : Nat → Request → List Visit → Except Fault Answer → Prop
  | refused {n q} : Trail first n q [(q, .refused)] (.error (.refused first))
  | lost {n q} : Trail first n q [(q, .lost)] (.error (.lost first))
  | late {n q} : Trail first n q [(q, .late)] (.error (.late first))
  | final {n q a} (h : q.next? a = none) : Trail first n q [(q, .answer a)] (.ok a)
  | tooMany {q a method url} (h : q.next? a = some (method, url)) :
      Trail first 0 q [(q, .answer a)] (.error (.tooManyRedirects q.url))
  | unsendable {n q a method url} (h : q.next? a = some (method, url))
      (hs : ¬ Url.IsWeb url.scheme) :
      Trail first (n + 1) q [(q, .answer a)] (.error (.unsendable (some url)))
  | follow {n q a method url visits result} (h : q.next? a = some (method, url))
      (hs : Url.IsWeb url.scheme) (rest : Trail first n (q.follow method url) visits result) :
      Trail first (n + 1) q ((q, .answer a) :: visits) result

section Run

variable {σ : Type} (service : Service σ) (first : Url)

/-- A request that is sent is one visit more. -/
theorem run_observed (q : Request) (s : σ) (seen : List Visit) :
    ∃ reply s', (service.observed q).run (s, seen) = (reply, s', seen ++ [(q, reply)]) :=
  ⟨_, _, rfl⟩

/-- Every run makes a trail, whatever the service does, and only adds visits. -/
theorem exists_trail (n : Nat) (q : Request) (s : σ) (seen : List Visit) :
    ∃ visits result s', (fetchFrom service.observed first n q).run (s, seen)
        = (result, s', seen ++ visits) ∧ Trail first n q visits result := by
  -- the replies that end the trail do so whatever `n` is, so `n` is split only where one leads on
  induction n using Nat.strongRecOn generalizing q s seen with
  | ind n ih =>
    obtain ⟨reply, s₁, hr⟩ := run_observed service q s seen
    unfold fetchFrom
    rw [StateT.run_bind, hr]
    cases reply with
    | refused => exact ⟨_, _, s₁, rfl, .refused⟩
    | lost => exact ⟨_, _, s₁, rfl, .lost⟩
    | late => exact ⟨_, _, s₁, rfl, .late⟩
    | answer a =>
      dsimp only [Id.run, bind, pure]
      cases hn : q.next? a with
      | none => exact ⟨_, _, s₁, rfl, .final hn⟩
      | some next =>
        obtain ⟨method, url⟩ := next
        cases n with
        | zero => exact ⟨_, _, s₁, rfl, .tooMany hn⟩
        | succ n =>
          dsimp only
          by_cases hs : Url.IsWeb url.scheme
          · obtain ⟨visits, result, s', hrun, ht⟩ := ih n n.lt_succ_self (q.follow method url) s₁
              (seen ++ [(q, .answer a)])
            refine ⟨_, result, s', ?_, .follow hn hs ht⟩
            rw [if_pos hs, hrun, List.append_assoc]
            rfl
          · refine ⟨_, _, s₁, ?_, .unsendable hn hs⟩
            rw [if_neg hs]
            rfl

end Run

section Laws

variable {first : Url} {n : Nat} {q : Request} {visits : List Visit} {result : Except Fault Answer}

/-- A trail starts with its request. -/
theorem Trail.starts (t : Trail first n q visits result) :
    ∃ reply rest, visits = (q, reply) :: rest := by
  cases t <;> exact ⟨_, _, rfl⟩

/-- An answer leads on at most `n` times. -/
theorem Trail.length_le (t : Trail first n q visits result) : visits.length ≤ n + 1 := by
  induction t with
  | follow _ _ _ ih => exact Nat.succ_le_succ ih
  | _ => exact Nat.succ_le_succ (Nat.zero_le _)

/-- Each request after the first is the one that the answer before leads to. -/
theorem Trail.isChain (t : Trail first n q visits result) :
    visits.IsChain fun v w => LeadsTo v w.1 := by
  induction t with
  | follow h hs rest ih =>
    obtain ⟨reply, visits, rfl⟩ := rest.starts
    exact .cons_cons ⟨_, _, _, rfl, h, hs, rfl⟩ ih
  | _ => exact .singleton _

/-- Every request after the first asks for a place without a body. -/
theorem Trail.isBare (t : Trail first n q visits result) (hq : q.fields = none → q.method = .get) :
    ∀ v ∈ visits.tail, v.1.IsBare := by
  induction t with
  | follow h hs rest ih =>
    intro v hv
    have hb := Request.follow_isBare hq h
    obtain ⟨reply, visits, rfl⟩ := rest.starts
    obtain rfl | hv := List.mem_cons.mp hv
    · exact hb
    · exact ih (fun _ => hb.1) v hv
  | _ => intro v hv; cases hv

/-- A trail shorter than it may be ends with a visit that leads nowhere. -/
theorem Trail.ends (t : Trail first n q visits result) (hn : visits.length ≤ n) :
    ∃ v, visits.getLast? = some v ∧ ∀ q, ¬ LeadsTo v q := by
  induction t with
  | refused | lost | late => exact ⟨_, rfl, fun _ ⟨_, _, _, ha, _⟩ => nomatch ha⟩
  | final h =>
    refine ⟨_, rfl, fun _ ⟨a, method, url, ha, hl, _⟩ => ?_⟩
    cases ha
    cases h.symm.trans hl
  | tooMany => exact absurd hn (Nat.not_succ_le_zero 0)
  | unsendable h hs =>
    refine ⟨_, rfl, fun _ ⟨a, method, url, ha, hl, hs', _⟩ => ?_⟩
    cases ha
    cases h.symm.trans hl
    exact hs hs'
  | follow h hs rest ih =>
    obtain ⟨v, hv, hlast⟩ := ih (Nat.le_of_succ_le_succ hn)
    obtain ⟨reply, visits, rfl⟩ := rest.starts
    exact ⟨v, hv, hlast⟩

/-- The final answer of a trail is what the fetch gives, and without one the fetch has failed. -/
theorem Trail.toOption_eq (t : Trail first n q visits result) :
    result.toOption = finalAnswer? visits := by
  induction t with
  | refused | lost | late => rfl
  | final h | tooMany h | unsendable h _ =>
    rw [finalAnswer?, Request.leadsOn_eq, h]
    rfl
  | follow h hs rest ih =>
    rw [ih, finalAnswer?, Request.leadsOn_eq, h]
    rfl

end Laws

end TaintClient.Http

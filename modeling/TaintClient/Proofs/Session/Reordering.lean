/-
  Sessions that let the last response win do not depend on order. Two runs that come to an end and
  submit the same, in any order of calls and of ends, leave the same behind: each submission ends
  where what came of its exchange brings it, the page was alerted as often, and the labels are at
  rest. Only the region keeps the order: it belongs to the section that wrote to it last, so where
  that one is the same, the pages are.

  A permutation of the numbers says which submission of the one run is which of the other.
-/
import Mathlib.Data.List.Count
import Mathlib.Logic.Equiv.Basic
import Mathlib.Logic.Equiv.Option
import TaintClient.Proofs.Session.Journal
import TaintClient.Proofs.Session.Region

namespace TaintClient

namespace Session

variable {s : Session}

/-- A section of a call cancels nothing, unless it is the one that cancels. -/
theorem isCancelled_proceed_of_ne {g : Stage} (hg : ∀ n m p, g ≠ .replaced n m (some p))
    (id : Nat) : (s.proceed g).1.isCancelled id = s.isCancelled id := by
  cases g with
  | returned => rfl
  | marked c =>
    cases hr : c.request with
    | error e =>
      simp only [proceed, hr]
      rfl
    | ok r =>
      simp only [proceed, hr]
      rw [isCancelled_replace, isCancelled_enrol]
  | replaced n m previous =>
    cases previous with
    | none => rfl
    | some p => exact absurd rfl (hg n m p)
  | cleared n m => exact isCancelled_launch s n m id

/-- Where the last response wins, a submission takes the place of none. -/
theorem previous_proceed (hp : s.policy = .lastResponseWins) {g : Stage} {id : Nat} {m : Mode}
    {previous : Option Nat} (h : (s.proceed g).2 = .replaced id m previous) : previous = none := by
  cases g with
  | marked c =>
    cases hr : c.request with
    | error e =>
      simp only [proceed, hr] at h
      cases h
    | ok r =>
      simp only [proceed, hr] at h
      rw [replace_of_lastResponseWins (s := (s.enrol r).1) hp] at h
      cases h
      rfl
  | _ => cases h

end Session

/-- An exchange ends once. -/
theorem Traffic.answer_advance {t t' : Traffic} {k : TaskStep} (h : t.advance k = some t')
    {id : Nat} {result : Except Failure Response} (hr : (t.tasks id).answer = some result) :
    (t'.tasks id).answer = some result := by
  cases k with
  | answer n r =>
    simp only [advance] at h
    split at h <;> cases h
    rename_i hc
    have hne : id ≠ n := by
      rintro rfl
      rw [hr] at hc
      exact Bool.false_ne_true hc.2
    simpa only [setTask, Function.update_of_ne hne] using hr
  | wake n branch =>
    simp only [advance] at h
    split at h <;> cases h
    by_cases hn : id = n
    · subst hn
      simpa only [setTask, Function.update_self] using hr
    · simpa only [setTask, Function.update_of_ne hn] using hr
  | finish n =>
    simp only [advance] at h
    split at h <;> cases h
    exact hr

namespace Interleaving

variable {o u v w w' : Interleaving} {sec : Section} {endpoint : Url} {policy : ResubmitPolicy}
  {variant : PageVariant} {panel : Panel} {done sections : List Section} {id : Nat}

theorem answer_step (h : w.step sec = some w') {result : Except Failure Response}
    (hr : (w.traffic.tasks id).answer = some result) :
    (w'.traffic.tasks id).answer = some result := by
  cases sec with
  | task k => exact Traffic.answer_advance (step_task h).1 hr
  | proceed i =>
    obtain ⟨g, _, _, rfl⟩ := step_proceed h
    exact hr
  | _ =>
    cases h
    exact hr

/-! ## Where the last response wins -/

/-- No submission was cancelled, nor will one be, and each ended where what came of its exchange
brings it. -/
structure Racing (w : Interleaving) : Prop where
  policy : w.session.policy = .lastResponseWins
  replaced : ∀ (i id : Nat) (m : Mode) (p : Option Nat),
    w.calls[i]? = some (.replaced id m p) → p = none
  uncancelled : ∀ id, w.session.isCancelled id = false
  settled : ∀ id st, w.session.state? id = some st → st.isTerminal = true →
    ∃ result, (w.traffic.tasks id).answer = some result ∧ st = .ofResult result

theorem racing_start : (start endpoint .lastResponseWins panel).Racing :=
  ⟨rfl, nofun, fun _ => rfl, nofun⟩

theorem Racing.replaced_step (hr : w.Racing) (h : w.step sec = some w') (i id : Nat) (m : Mode)
    (p : Option Nat) (hg : w'.calls[i]? = some (.replaced id m p)) : p = none := by
  cases sec with
  | mark c =>
    cases h
    rw [List.getElem?_append] at hg
    split at hg
    · exact hr.replaced i id m p hg
    · rw [List.getElem?_singleton] at hg
      split at hg <;> cases hg
  | proceed j =>
    obtain ⟨g, hgj, _, rfl⟩ := step_proceed h
    by_cases hij : j = i
    · subst hij
      have hlt : j < w.calls.length := (List.getElem?_eq_some_iff.mp hgj).1
      rw [List.getElem?_set_self hlt] at hg
      exact Session.previous_proceed hr.policy (Option.some_inj.mp hg)
    · rw [List.getElem?_set_ne hij] at hg
      exact hr.replaced i id m p hg
  | task k =>
    rw [(step_task h).2] at hg
    exact hr.replaced i id m p hg
  | alert message =>
    cases h
    exact hr.replaced i id m p hg

theorem Racing.uncancelled_step (hr : w.Racing) (hs : w.traffic.Sound) (h : w.step sec = some w')
    (id : Nat) : w'.session.isCancelled id = false := by
  rw [← hr.uncancelled id]
  cases sec with
  | mark c =>
    cases h
    rfl
  | proceed i =>
    obtain ⟨g, hg, _, rfl⟩ := step_proceed h
    refine Session.isCancelled_proceed_of_ne (s := w.session) (fun n m p he => ?_) id
    cases hr.replaced i n m (some p) (he ▸ hg)
  | task k =>
    obtain ⟨_, hsame⟩ | ⟨_, _, _, rfl, hf⟩ := Traffic.advance_cases hs (step_task h).1
    · exact congrArg (·.isCancelled id) hsame
    · exact hf.ends.isCancelled_eq id
  | alert message =>
    cases h
    rfl

theorem Racing.settled_step (hr : w.Racing) (hw : w.Kept) (h : w.step sec = some w') (id : Nat)
    (st : SubmissionState) (hst : w'.session.state? id = some st) (hend : st.isTerminal = true) :
    ∃ result, (w'.traffic.tasks id).answer = some result ∧ st = .ofResult result := by
  by_cases hsec : sec = .task (.finish id)
  · subst hsec
    -- its own last section: it is not cancelled, so what came of its exchange is applied
    obtain ⟨hadv, _⟩ := step_task h
    obtain ⟨sub, hsub, _, htasks, ⟨hc, _⟩ | ⟨_, result, hresult, he⟩⟩ :=
      Traffic.advance_finish hw.sound hadv
    · have hcan := hr.uncancelled id
      unfold Session.isCancelled session at hcan
      rw [hsub] at hcan
      exact absurd (hc.symm.trans hcan) Bool.true_eq_false.mp
    · refine ⟨result, by rw [htasks]; exact hresult, ?_⟩
      have hends := Session.ends_apply w.traffic.session id sub.request.mode result
      rw [← he] at hends
      have hstate := hends.state?_eq id
      rw [if_pos rfl, Session.state?_of_getElem? hsub] at hstate
      exact Option.some_inj.mp (hst.symm.trans hstate)
  · have hold := (state?_step hw.sound hw.waiting h hsec hend).mp hst
    obtain ⟨result, hresult, he⟩ := hr.settled id st hold hend
    exact ⟨result, answer_step h hresult, he⟩

theorem Racing.step (hr : w.Racing) (hw : w.Kept) (h : w.step sec = some w') : w'.Racing where
  policy := (policy_step hw.sound h).trans hr.policy
  replaced := hr.replaced_step h
  uncancelled := hr.uncancelled_step hw.sound h
  settled := hr.settled_step hw h

theorem racing_of_run (h : (start endpoint .lastResponseWins panel).run sections = some w) :
    w.Racing :=
  (Steps.invariant_of_run (P := fun w : Interleaving => w.Kept ∧ w.Racing)
    (fun _ _ _ ⟨hw, hr⟩ h => ⟨hw.step h, hr.step hw h⟩) ⟨kept_start, racing_start⟩ h).2

/-! ## Who wrote to the region -/

/-- Which section of a run wrote to the region last: a mark, or the last one of the task of a
submission. -/
def lastWriter (w : Interleaving) : List Section → Option (Option Nat)
  | [] => none
  | sec :: rest =>
    match w.step sec with
    | none => none
    | some w' => (w'.lastWriter rest).or ((w'.written sec).map fun _ => w.subject sec)

theorem lastWriter_concat (hrun : o.run done = some u) (hstep : u.step sec = some w) :
    o.lastWriter (done ++ [sec]) =
      ((w.written sec).map fun _ => u.subject sec).or (o.lastWriter done) := by
  induction done generalizing o with
  | nil =>
    cases hrun
    simp only [List.nil_append, lastWriter, hstep, Option.none_or, Option.or_none]
  | cons first rest ih =>
    obtain ⟨v, hv, hrest⟩ := Steps.run_cons_eq_some.mp hrun
    simp only [List.cons_append, lastWriter, hv, ih hrest, Option.or_assoc]

/-- The region as the section that wrote to it last leaves it: a mark the placeholder, the task of
a submission the response that its exchange brought. -/
inductive LeftBy (panel : Panel) (w : Interleaving) : Option (Option Nat) → Prop
  | nobody (h : w.session.panel.region = panel.region) : LeftBy panel w none
  | mark (h : w.session.panel.region = (Report.placeholder, none)) : LeftBy panel w (some none)
  | task (id : Nat) (r : Response) (hs : w.session.state? id = some .rendered)
      (ha : (w.traffic.tasks id).answer = some (.ok r))
      (h : w.session.panel.region = (Report.html r, some r)) : LeftBy panel w (some (some id))

theorem LeftBy.step {writer : Option (Option Nat)} (hl : u.LeftBy panel writer) (hu : u.Kept)
    (hstep : u.step sec = some w) (h : w.session.panel.region = u.session.panel.region) :
    w.LeftBy panel writer := by
  cases hl with
  | nobody hr => exact .nobody (h.trans hr)
  | mark hr => exact .mark (h.trans hr)
  | task id r hs ha hr =>
    exact .task id r ((later_step hu hstep).ended id _ rfl hs) (answer_step hstep ha) (h.trans hr)

/-- What is written to the region is what its writer leaves there. -/
theorem leftBy_of_written (hw : u.Kept) (hstep : u.step sec = some w) {x : RegionWrite}
    (hx : w.written sec = some x) : w.LeftBy panel (some (u.subject sec)) := by
  have hregion := region_step hw.sound hstep
  rw [hx] at hregion
  cases sec with
  | mark c =>
    refine .mark ?_
    simp only [written] at hx
    split at hx <;> cases hx
    exact hregion
  | task k =>
    cases k with
    | finish id =>
      simp only [written] at hx
      split at hx <;> cases hx
      exact .task id _ ‹_› ‹_› hregion
    | _ => cases hx
  | _ => cases hx

theorem leftBy_lastWriter (h : (start endpoint policy panel).run sections = some w) :
    w.LeftBy panel ((start endpoint policy panel).lastWriter sections) := by
  refine run_induction (P := fun done w =>
    w.LeftBy panel ((start endpoint policy panel).lastWriter done)) (.nobody rfl) ?_ h
  intro done u sec w notes alerts hrun ih hstep hadds
  rw [lastWriter_concat hrun hstep]
  cases hx : w.written sec with
  | none =>
    have hregion := region_step (kept_of_run hrun).sound hstep
    rw [hx] at hregion
    rw [Option.map_none, Option.none_or]
    exact ih.step (kept_of_run hrun) hstep hregion
  | some x => exact leftBy_of_written (kept_of_run hrun) hstep hx

/-! ## Entries under other numbers -/

theorem length_own {α : Type} (tag : Option Nat) (entries : List (Option Nat × α)) :
    (own tag entries).length = (entries.map (·.1)).count tag := by
  unfold own
  rw [List.length_map, List.count, List.countP_map, List.countP_eq_length_filter]
  congr 1
  refine List.filter_congr fun e _ => ?_
  simp [Bool.beq_eq_decide_eq]

/-- Journals with as many entries of corresponding submissions have as many entries. -/
theorem length_eq_of_own {α : Type} (σ : Equiv.Perm (Option Nat))
    {as bs : List (Option Nat × α)}
    (h : ∀ tag, (own (σ tag) bs).length = (own tag as).length) : bs.length = as.length := by
  have hperm : ((as.map (·.1)).map σ).Perm (bs.map (·.1)) := by
    refine List.perm_iff_count.mpr fun tag => ?_
    obtain ⟨tag, rfl⟩ := σ.surjective tag
    rw [List.count_map_of_injective _ _ σ.injective, ← length_own, ← length_own, h]
  have hlength := hperm.length_eq
  simpa using hlength.symm

/-! ## Two runs of the same submissions -/

/-- Every call returned, and every submission is at its end. -/
structure Complete (w : Interleaving) : Prop where
  returned : w.Quiet
  ended : ∀ sub ∈ w.session.submissions, sub.state.isTerminal = true

/-- Two sessions have the same submissions under numbers that correspond: of the same mode, and
with the same outcome of the exchange. -/
structure SameSubmissions (σ : Equiv.Perm Nat) (v w : Interleaving) : Prop where
  mode : ∀ id, (w.session.request? (σ id)).map (·.mode) = (v.session.request? id).map (·.mode)
  answer : ∀ id < v.session.submissions.length,
    (w.traffic.tasks (σ id)).answer = (v.traffic.tasks id).answer

/-- At its end, a submission is where what came of its exchange brings it. -/
theorem Racing.state?_eq (hr : w.Racing) (hc : w.Complete) {sub : Submission}
    (hsub : w.session.submissions[id]? = some sub) :
    ∃ result, (w.traffic.tasks id).answer = some result ∧
      w.session.state? id = some (.ofResult result) := by
  have hstate := Session.state?_of_getElem? hsub
  obtain ⟨result, hresult, he⟩ := hr.settled id _ hstate (hc.ended sub (List.mem_of_getElem? hsub))
  exact ⟨result, hresult, he ▸ hstate⟩

theorem state?_eq_of_sameSubmissions {σ : Equiv.Perm Nat} (hv : v.Racing) (hw : w.Racing)
    (hcv : v.Complete) (hcw : w.Complete) (h : SameSubmissions σ v w) (id : Nat) :
    w.session.state? (σ id) = v.session.state? id := by
  have hmode := h.mode id
  unfold Session.request? at hmode
  cases hsub : v.session.submissions[id]? with
  | none =>
    cases hsub' : w.session.submissions[σ id]? with
    | none => rw [Session.state?, Session.state?, hsub, hsub']
    | some sub' =>
      rw [hsub, hsub'] at hmode
      cases hmode
  | some sub =>
    cases hsub' : w.session.submissions[σ id]? with
    | none =>
      rw [hsub, hsub'] at hmode
      cases hmode
    | some sub' =>
      obtain ⟨result, hresult, hstate⟩ := hv.state?_eq hcv hsub
      obtain ⟨result', hresult', hstate'⟩ := hw.state?_eq hcw hsub'
      have hanswer := h.answer id (List.getElem?_eq_some_iff.mp hsub).1
      rw [hresult, hresult'] at hanswer
      rw [hstate, hstate', Option.some_inj.mp hanswer]

/-- What the same writer leaves is the same. -/
theorem LeftBy.region_eq {σ : Equiv.Perm Nat} {writer : Option (Option Nat)}
    (hw : w.LeftBy panel (writer.map (Option.map σ))) (hv : v.LeftBy panel writer)
    (h : SameSubmissions σ v w) : w.session.panel.region = v.session.panel.region := by
  cases hv with
  | nobody hr =>
    cases hw with
    | nobody hr' => rw [hr, hr']
  | mark hr =>
    cases hw with
    | mark hr' => rw [hr, hr']
  | task id r hs ha hr =>
    cases hw with
    | task _ r' _ ha' hr' =>
      have hanswer := h.answer id (Session.lt_length_of_state? hs)
      rw [ha, ha'] at hanswer
      cases hanswer
      rw [hr, hr']

theorem filterMap_message?_eq_nil (h : ∀ message, .alert message ∉ sections) :
    sections.filterMap Section.message? = [] := by
  refine List.filterMap_eq_nil_iff.mpr fun sec hsec => ?_
  cases sec with
  | alert message => exact absurd hsec (h message)
  | _ => rfl

/-- Without alerts that were asked for, the page was alerted of failed exchanges only. -/
theorem alerts_eq_replicate (h : (start endpoint policy panel).run sections = some w)
    (hp : panel.alerts = []) (ha : ∀ message, .alert message ∉ sections) :
    w.session.panel.alerts =
      List.replicate ((start endpoint policy panel).trace alertsOf sections).length
        Panel.alertMessage := by
  rw [alerts_eq_trace h, hp, List.nil_append]
  refine List.eq_replicate_iff.mpr ⟨List.length_map _, fun message hmessage => ?_⟩
  obtain ⟨⟨tag, _⟩, he, rfl⟩ := List.mem_map.mp hmessage
  have hown := mem_own he
  cases tag with
  | none =>
    rw [own_none_alerts h, filterMap_message?_eq_nil ha] at hown
    cases hown
  | some id =>
    rw [own_alerts h id] at hown
    split at hown
    · exact List.mem_singleton.mp hown
    · cases hown

/-- **Order does not matter where the last response wins.** Two runs from equal pages, on which
nothing was submitted yet, come to their ends, submit the same, in any order of their sections, and
alert of their own accord only. Then every submission ends in the same state in both, the pages have
the same alerts, and the labels read the same and are held by as many. And if the region was last
written by the same section, a mark or the end of the same submission, the pages are equal. -/
theorem panel_eq_of_sameSubmissions {labels : List (Mode × String)} {others : List Section}
    {σ : Equiv.Perm Nat}
    (hv : (start endpoint .lastResponseWins ((Panel.fresh variant).withLabels labels)).run
      sections = some v)
    (hw : (start endpoint .lastResponseWins ((Panel.fresh variant).withLabels labels)).run
      others = some w)
    (hcv : v.Complete) (hcw : w.Complete) (hav : ∀ message, .alert message ∉ sections)
    (haw : ∀ message, .alert message ∉ others) (h : SameSubmissions σ v w) :
    (∀ id, w.session.state? (σ id) = v.session.state? id) ∧
    w.session.panel.alerts = v.session.panel.alerts ∧
    (∀ m, w.session.panel.labelText m = v.session.panel.labelText m ∧
      (w.session.panel.label m).inFlight = (v.session.panel.label m).inFlight) ∧
    ((start endpoint .lastResponseWins ((Panel.fresh variant).withLabels labels)).lastWriter
        others =
      ((start endpoint .lastResponseWins ((Panel.fresh variant).withLabels labels)).lastWriter
        sections).map (Option.map σ) → w.session.panel = v.session.panel) := by
  have hrest := Panel.atRest_withLabels (Panel.atRest_fresh variant) labels
  have hblank : ((Panel.fresh variant).withLabels labels).alerts = [] :=
    Panel.alerts_withLabels _ labels
  have hstate := state?_eq_of_sameSubmissions (racing_of_run hv) (racing_of_run hw) hcv hcw h
  have halerts : w.session.panel.alerts = v.session.panel.alerts := by
    rw [alerts_eq_replicate hv hblank hav, alerts_eq_replicate hw hblank haw]
    congr 1
    refine length_eq_of_own σ.optionCongr fun tag => ?_
    cases tag with
    | none =>
      show (own none _).length = _
      rw [own_none_alerts hv, own_none_alerts hw, filterMap_message?_eq_nil hav,
        filterMap_message?_eq_nil haw]
    | some id =>
      show (own (some (σ id)) _).length = _
      rw [own_alerts hv, own_alerts hw, hstate]
  have hlabel : ∀ m, w.session.panel.label m = v.session.panel.label m := by
    intro m
    have hmarked : ∀ {u : Interleaving}, u.Complete → ∀ c, .marked c ∉ u.calls := by
      intro u hu c hc
      cases hu.returned _ hc
    rw [(accounted_of_run hrest hv).label_eq (hmarked hcv) hcv.ended,
      (accounted_of_run hrest hw).label_eq (hmarked hcw) hcw.ended]
  refine ⟨hstate, halerts, fun m => ⟨?_, ?_⟩, fun hlast => ?_⟩
  · rw [Panel.labelText, Panel.labelText, hlabel]
  · rw [hlabel]
  · refine Panel.eq_of_views ?_ ?_ hlabel halerts
    · exact (accounted_of_run hrest hw).variant.trans (accounted_of_run hrest hv).variant.symm
    · have hleft := leftBy_lastWriter hw
      rw [hlast] at hleft
      exact hleft.region_eq (leftBy_lastWriter hv) h

/-- Two submissions under way together, of which the first fails before the second is rendered. -/
def failedFirst : List Section :=
  [.mark (.submit ⟨.solidity, "a", "", none⟩), .proceed 0, .proceed 0, .proceed 0,
    .mark (.submit ⟨.bytecode, "b", "", none⟩), .proceed 1, .proceed 1, .proceed 1,
    .task (.answer 0 (.error (.status ⟨500⟩))), .task (.wake 0 .answered), .task (.finish 0),
    .task (.answer 1 (.ok { data := "b" })), .task (.wake 1 .answered), .task (.finish 1)]

/-- The same two with their calls mixed: the second is enrolled and rendered first. -/
def failedLast : List Section :=
  [.mark (.submit ⟨.bytecode, "b", "", none⟩), .proceed 0,
    .mark (.submit ⟨.solidity, "a", "", none⟩), .proceed 0, .proceed 1, .proceed 0, .proceed 1,
    .task (.answer 0 (.ok { data := "b" })), .task (.wake 0 .answered), .task (.finish 0),
    .proceed 1, .task (.answer 1 (.error (.status ⟨500⟩))), .task (.wake 1 .answered),
    .task (.finish 1)]

/-- Both leave the same page behind. -/
theorem panel_eq_failed :
    ∃ v w, (start { scheme := "http", path := .rooted [] } .lastResponseWins
        ((Panel.fresh .report).withLabels [])).run failedFirst = some v ∧
      (start { scheme := "http", path := .rooted [] } .lastResponseWins
        ((Panel.fresh .report).withLabels [])).run failedLast = some w ∧
      w.session.state? 1 = v.session.state? 0 ∧ w.session.panel = v.session.panel := by
  obtain ⟨v, w, hv, hw, hcv, hcw, hsv, hsw, hv0, hw1, hv1, hw0, hlv, hlw⟩ :
      ∃ v w, (start { scheme := "http", path := .rooted [] } .lastResponseWins
          ((Panel.fresh .report).withLabels [])).run failedFirst = some v ∧
        (start { scheme := "http", path := .rooted [] } .lastResponseWins
          ((Panel.fresh .report).withLabels [])).run failedLast = some w ∧
        v.calls = [.returned, .returned] ∧ w.calls = [.returned, .returned] ∧
        v.session.submissions = [⟨⟨.solidity, "a", "", none⟩, false, .alerted⟩,
          ⟨⟨.bytecode, "b", "", none⟩, false, .rendered⟩] ∧
        w.session.submissions = [⟨⟨.bytecode, "b", "", none⟩, false, .rendered⟩,
          ⟨⟨.solidity, "a", "", none⟩, false, .alerted⟩] ∧
        (v.traffic.tasks 0).answer = some (.error (.status ⟨500⟩)) ∧
        (w.traffic.tasks 1).answer = some (.error (.status ⟨500⟩)) ∧
        (v.traffic.tasks 1).answer = some (.ok { data := "b" }) ∧
        (w.traffic.tasks 0).answer = some (.ok { data := "b" }) ∧
        (start { scheme := "http", path := .rooted [] } .lastResponseWins
          ((Panel.fresh .report).withLabels [])).lastWriter failedFirst = some (some 1) ∧
        (start { scheme := "http", path := .rooted [] } .lastResponseWins
          ((Panel.fresh .report).withLabels [])).lastWriter failedLast = some (some 0) :=
    ⟨_, _, rfl, rfl, rfl, rfl, rfl, rfl, rfl, rfl, rfl, rfl, rfl, rfl⟩
  have hσ : ∀ id : Nat, Equiv.swap 0 1 (id + 2) = id + 2 := fun id =>
    Equiv.swap_apply_of_ne_of_ne (by omega) (by omega)
  have hsame : SameSubmissions (Equiv.swap 0 1) v w := by
    constructor
    · intro id
      unfold Session.request?
      rw [hsv, hsw]
      match id with
      | 0 | 1 => rfl
      | id + 2 => rw [hσ]; rfl
    · intro id hid
      rw [hsv] at hid
      match id with
      | 0 => exact hw1.trans hv0.symm
      | 1 => exact hw0.trans hv1.symm
  have hcomplete : v.Complete ∧ w.Complete := by
    refine ⟨⟨?_, ?_⟩, ?_, ?_⟩
    · simp [Quiet, hcv]
    · simp [hsv, SubmissionState.isTerminal]
    · simp [Quiet, hcw]
    · simp [hsw, SubmissionState.isTerminal]
  obtain ⟨hstate, _, _, hpanel⟩ := panel_eq_of_sameSubmissions hv hw hcomplete.1 hcomplete.2
    (by simp [failedFirst]) (by simp [failedLast]) hsame
  refine ⟨v, w, hv, hw, hstate 0, hpanel ?_⟩
  rw [hlv, hlw]
  rfl

end Interleaving

end TaintClient

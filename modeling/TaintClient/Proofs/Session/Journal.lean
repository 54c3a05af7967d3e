/-
  Who noted what. The journal of a run tells of every note and of every alert which submission it
  was added for: the one that the call at work is to launch, or the one whose task is at work. Read
  for one submission, the journal tells its story: that it was launched, and, once it is at its
  end, that it ended, once. An alert has no submission only where it was asked for.

  The main statement is `journal_of_run`; each of its parts is one induction on the run, with what
  one section adds (`Adds`) for its step.
-/
import TaintClient.Proofs.Exchange.Result
import TaintClient.Proofs.Session.Standing

namespace TaintClient

/-- What the user is alerted with, if a section does just that. -/
def Section.message? : Section → Option String
  | .alert message => some message
  | _ => none

/-- The notes on a submission: none before its launch, then that on its launch, and behind it those
of its end. -/
inductive Story (endpoint : Url) : Option (Mode × SubmissionState) → List Log.Record → Prop
  | absent : Story endpoint none []
  | idle (m : Mode) : Story endpoint (some (m, .idle)) []
  | submitted (m : Mode) : Story endpoint (some (m, .submitted)) [Session.submittedNote endpoint m]
  | ended (m : Mode) (st : SubmissionState) (notes : List Log.Record)
      (h : Session.Ending m st notes) :
      Story endpoint (some (m, st)) (Session.submittedNote endpoint m :: notes)

/-- There is a note of an error if and only if the submission ended with a failure that was not
shown, and then there is one. -/
theorem Story.countP_error {endpoint : Url} {standing : Option (Mode × SubmissionState)}
    {notes : List Log.Record} (h : Story endpoint standing notes) :
    notes.countP (·.level = .error) = if standing.map (·.2) = some .faulted then 1 else 0 := by
  cases h with
  | ended m st notes h => cases h <;> rfl
  | _ => rfl

namespace Interleaving

variable {α : Type} {view : Session → List α} {o u w w' : Interleaving} {sec : Section}
  {endpoint : Url} {policy : ResubmitPolicy} {panel : Panel} {done sections : List Section}

/-! ## Journals -/

/-- What the sections of a run add to a list of the session, each entry with the submission that
it was added for. -/
def trace (view : Session → List α) (w : Interleaving) : List Section → List (Option Nat × α)
  | [] => []
  | sec :: rest =>
    match w.step sec with
    | none => []
    | some w' =>
      ((view w'.session).drop (view w.session).length).map (w.subject sec, ·) ++
        w'.trace view rest

/-- The alerts of the page of a session. -/
def alertsOf (s : Session) : List String := s.panel.alerts

/-- The entries that were added for one submission, or for none. -/
def own (id : Option Nat) (entries : List (Option Nat × α)) : List α :=
  (entries.filter (·.1 = id)).map (·.2)

theorem mem_own {entries : List (Option Nat × α)} {e : Option Nat × α} (he : e ∈ entries) :
    e.2 ∈ own e.1 entries :=
  List.mem_map_of_mem (List.mem_filter.mpr ⟨he, decide_eq_true rfl⟩)

theorem own_append (id : Option Nat) (as bs : List (Option Nat × α)) :
    own id (as ++ bs) = own id as ++ own id bs := by
  unfold own
  rw [List.filter_append, List.map_append]

theorem own_map (id tag : Option Nat) (as : List α) :
    own id (as.map (tag, ·)) = if tag = id then as else [] := by
  unfold own
  rw [List.filter_map]
  by_cases h : tag = id
  · rw [if_pos h]
    simp [Function.comp_def, h]
  · rw [if_neg h]
    simp [Function.comp_def, h]

theorem map_snd_map (tag : Option Nat) (as : List α) : (as.map (tag, ·)).map (·.2) = as := by
  rw [List.map_map]
  exact List.map_id as

/-- A section more is an entry more for everything that it adds. -/
theorem trace_concat {added : List α} (hrun : o.run done = some u) (hstep : u.step sec = some w)
    (hadd : view w.session = view u.session ++ added) :
    o.trace view (done ++ [sec]) = o.trace view done ++ added.map (u.subject sec, ·) := by
  induction done generalizing o with
  | nil =>
    cases hrun
    simp only [List.nil_append, trace, hstep, hadd, List.drop_left, List.append_nil]
  | cons first rest ih =>
    obtain ⟨v, hv, hrest⟩ := Steps.run_cons_eq_some.mp hrun
    simp only [List.cons_append, trace, hv, ih hrest, List.append_assoc]

/-- What holds at first, and after a section that adds what it adds, holds after a run. -/
theorem run_induction {P : List Section → Interleaving → Prop}
    (hstart : P [] (start endpoint policy panel))
    (hstep : ∀ done u sec w notes alerts, (start endpoint policy panel).run done = some u →
      P done u → u.step sec = some w → u.Adds sec w notes alerts → P (done ++ [sec]) w)
    (h : (start endpoint policy panel).run sections = some w) : P sections w := by
  induction sections using List.reverseRecOn generalizing w with
  | nil =>
    cases h
    exact hstart
  | append_singleton done sec ih =>
    obtain ⟨u, hu, hlast⟩ := Steps.run_append_eq_some.mp h
    obtain ⟨v, hv, hnil⟩ := Steps.run_cons_eq_some.mp hlast
    cases hnil
    obtain ⟨notes, alerts, hadds⟩ := adds_step (kept_of_run hu) hv
    exact hstep done u sec w notes alerts hu (ih hu) hv hadds

theorem own_trace_concat {added : List α} (hrun : o.run done = some u) (hstep : u.step sec = some w)
    (hadd : view w.session = view u.session ++ added) (id : Option Nat) :
    own id (o.trace view (done ++ [sec])) =
      own id (o.trace view done) ++ if u.subject sec = id then added else [] := by
  rw [trace_concat hrun hstep hadd, own_append, own_map]

/-! ## One law each -/

/-- What the session noted, and what its page alerted, is what the journals tell, in this order. -/
theorem notes_eq_trace (h : (start endpoint policy panel).run sections = some w) :
    w.session.notes = ((start endpoint policy panel).trace Session.notes sections).map (·.2) := by
  refine run_induction (P := fun done w => w.session.notes =
    ((start endpoint policy panel).trace Session.notes done).map (·.2)) rfl ?_ h
  intro done u sec w notes alerts hrun ih hstep hadds
  rw [trace_concat hrun hstep hadds.notes, hadds.notes, ih, List.map_append, map_snd_map]

theorem alerts_eq_trace (h : (start endpoint policy panel).run sections = some w) :
    w.session.panel.alerts =
      panel.alerts ++ ((start endpoint policy panel).trace alertsOf sections).map (·.2) := by
  refine run_induction (P := fun done w => w.session.panel.alerts =
    panel.alerts ++ ((start endpoint policy panel).trace alertsOf done).map (·.2))
    (List.append_nil _).symm ?_ h
  intro done u sec w notes alerts hrun ih hstep hadds
  rw [trace_concat hrun hstep hadds.alerts, hadds.alerts, ih, List.map_append, map_snd_map,
    List.append_assoc]

theorem endpoint_of_run (h : (start endpoint policy panel).run sections = some w) :
    w.session.endpoint = endpoint :=
  run_induction (P := fun _ w => w.session.endpoint = endpoint) rfl
    (fun _ _ _ _ _ _ _ ih _ hadds => hadds.endpoint.trans ih) h

/-- What happens to a submission goes on its story. -/
theorem story_append {id : Nat} {entries notes : List Log.Record} {alerts : List String}
    (h : Story endpoint (u.session.standing? id) entries) (hend : u.session.endpoint = endpoint)
    (hfate : u.Fate w id notes alerts) :
    Story endpoint (w.session.standing? id) (entries ++ notes) := by
  cases hfate with
  | unmoved hsame =>
    rw [hsame, List.append_nil]
    exact h
  | enrolled m hold hnew =>
    rw [hold] at h
    rw [hnew]
    cases h
    exact .idle m
  | launched m hold hnew =>
    rw [hold] at h
    rw [hnew, hend]
    cases h with
    | idle => exact .submitted m
    | ended _ _ _ hending => cases hending
  | ended m st _ hold hnew hending =>
    rw [hold] at h
    rw [hnew]
    cases h with
    | submitted => exact .ended m st notes hending
    | ended _ _ _ hending' => cases hending'

/-- The notes on each submission are its story. -/
theorem story_of_run (h : (start endpoint policy panel).run sections = some w) (id : Nat) :
    Story endpoint (w.session.standing? id)
      (own (some id) ((start endpoint policy panel).trace Session.notes sections)) := by
  refine run_induction (P := fun done w => Story endpoint (w.session.standing? id)
    (own (some id) ((start endpoint policy panel).trace Session.notes done))) .absent ?_ h
  intro done u sec w notes alerts hrun ih hstep hadds
  rw [own_trace_concat hrun hstep hadds.notes]
  exact story_append ih (endpoint_of_run hrun) (hadds.fate id)

/-- A submission was alerted once if that is how it ended, and never otherwise. -/
theorem own_alerts (h : (start endpoint policy panel).run sections = some w) (id : Nat) :
    own (some id) ((start endpoint policy panel).trace alertsOf sections) =
      if w.session.state? id = some .alerted then [Panel.alertMessage] else [] := by
  refine run_induction (P := fun done w =>
    own (some id) ((start endpoint policy panel).trace alertsOf done) =
      if w.session.state? id = some .alerted then [Panel.alertMessage] else []) rfl ?_ h
  intro done u sec w notes alerts hrun ih hstep hadds
  rw [own_trace_concat hrun hstep hadds.alerts, ih, Session.state?_eq_standing?,
    Session.state?_eq_standing?]
  have hfate := hadds.fate id
  generalize (if u.subject sec = some id then alerts else []) = raised at hfate ⊢
  generalize (if u.subject sec = some id then notes else []) = added at hfate
  cases hfate with
  | unmoved hsame => rw [hsame, List.append_nil]
  | enrolled m hold hnew => rw [hold, hnew]; rfl
  | launched m hold hnew => rw [hold, hnew]; rfl
  | ended m st _ hold hnew hending =>
    rw [hold, hnew]
    simp

/-- Every note is on a submission. -/
theorem own_none_notes (h : (start endpoint policy panel).run sections = some w) :
    own none ((start endpoint policy panel).trace Session.notes sections) = [] := by
  refine run_induction (P := fun done _ =>
    own none ((start endpoint policy panel).trace Session.notes done) = []) rfl ?_ h
  intro done u sec w notes alerts hrun ih hstep hadds
  rw [own_trace_concat hrun hstep hadds.notes, ih, List.nil_append]
  cases hadds.move with
  | silent hsec hstanding => exact ite_self _
  | alert message hsec hstanding => exact ite_self _
  | launch i n m hsec hsubject hidle hstanding => rw [hsubject, if_neg nofun]
  | finish n m st notes hsec hsubmitted hending hstanding =>
    rw [hsec]
    exact if_neg nofun

/-- The other alerts are those that were asked for. -/
theorem own_none_alerts (h : (start endpoint policy panel).run sections = some w) :
    own none ((start endpoint policy panel).trace alertsOf sections) =
      sections.filterMap Section.message? := by
  refine run_induction (P := fun done _ =>
    own none ((start endpoint policy panel).trace alertsOf done) =
      done.filterMap Section.message?) rfl ?_ h
  intro done u sec w notes alerts hrun ih hstep hadds
  rw [own_trace_concat hrun hstep hadds.alerts, ih, List.filterMap_append]
  cases hadds.move with
  | silent hsec hstanding =>
    have hmessage : sec.message? = none := by
      cases sec with
      | alert message => exact absurd rfl (hsec message)
      | _ => rfl
    rw [ite_self, List.filterMap_cons, hmessage]
    rfl
  | alert message hsec hstanding =>
    subst hsec
    rfl
  | launch i n m hsec hsubject hidle hstanding =>
    subst hsec
    rw [ite_self]
    rfl
  | finish n m st notes hsec hsubmitted hending hstanding =>
    subst hsec
    exact congrArg _ (if_neg nofun)

/-! ## What stays -/

/-- What was noted and alerted stays, in front of what is added, and so does every end. -/
structure Later (w w' : Interleaving) : Prop where
  notes : w.session.notes <+: w'.session.notes
  alerts : w.session.panel.alerts <+: w'.session.panel.alerts
  ended : ∀ id st, st.isTerminal = true → w.session.state? id = some st →
    w'.session.state? id = some st

theorem later_step (hw : w.Kept) (h : w.step sec = some w') : w.Later w' := by
  obtain ⟨notes, alerts, hadds⟩ := adds_step hw h
  refine ⟨⟨notes, hadds.notes.symm⟩, ⟨alerts, hadds.alerts.symm⟩, fun id st hst hstate => ?_⟩
  refine (state?_step hw.sound hw.waiting h ?_ hst).mpr hstate
  -- the last section of its task comes while it is under way
  rintro rfl
  have hsub : w.session.state? id = some .submitted := Traffic.state?_of_advance (step_task h).1
  rw [hstate] at hsub
  cases hsub
  cases hst

theorem Later.trans (h : o.Later u) (h' : u.Later w) : o.Later w :=
  ⟨h.notes.trans h'.notes, h.alerts.trans h'.alerts,
    fun id st hst hs => h'.ended id st hst (h.ended id st hst hs)⟩

theorem later_of_run (h : (start endpoint policy panel).run sections = some w)
    {more : List Section} (hmore : w.run more = some w') : w.Later w' :=
  (Steps.invariant_of_run (P := fun u : Interleaving => u.Kept ∧ w.Later u)
    (fun _ _ _ ⟨hu, hlater⟩ h => ⟨hu.step h, hlater.trans (later_step hu h)⟩)
    ⟨kept_of_run h, List.prefix_rfl, List.prefix_rfl, fun _ _ _ hs => hs⟩ hmore).2

/-- A form that lacks an element leaves no trace but on the region: whether a call begins or finds
its form wanting, nothing is noted or alerted, and no submission is added. -/
theorem refused_step (h : w.step sec = some w')
    (hsec : (∃ c, sec = .mark c) ∨ ∃ i c missing, sec = .proceed i ∧
      w.calls[i]? = some (.marked c) ∧ c.request = .error missing) :
    w'.session.notes = w.session.notes ∧ w'.session.panel.alerts = w.session.panel.alerts ∧
      w'.session.submissions = w.session.submissions ∧ w'.traffic.tasks = w.traffic.tasks := by
  obtain ⟨c, rfl⟩ | ⟨i, c, missing, rfl, hg, hr⟩ := hsec
  · cases h
    exact ⟨rfl, Panel.alerts_start _ _, rfl, rfl⟩
  · obtain ⟨g, hg', _, rfl⟩ := step_proceed h
    obtain rfl := Option.some_inj.mp (hg.symm.trans hg')
    simp only [Session.proceed, hr]
    exact ⟨rfl, Panel.alerts_release _ _, rfl, rfl⟩

/-- The last section of a task ends its submission. -/
theorem isTerminal_finish (hs : w.traffic.Sound) {id : Nat}
    (h : w.step (.task (.finish id)) = some w') :
    ∃ st, w'.session.state? id = some st ∧ st.isTerminal = true := by
  obtain ⟨sub, st, hf⟩ := Traffic.finishes_of_advance hs (step_task h).1
  exact ⟨st, hf.state?_eq, hf.terminal⟩

/-! ## The law of the journals -/

/-- **One outcome, told once.** Under either policy, on any page and in every interleaving, the
notes and alerts of a session only grow, and are what the journals tell. Each note is on a
submission, and those on one submission are its story: a launch, then one end, which says where it
stands. An error is noted once for each submission that ended with a failure that was not shown.
Each such alert as a failed exchange raises is that of a submission, one for each that ended in it;
the others were asked for. A task that runs its last section leaves its submission at an end, where
it stays; and a form that lacks an element adds no note, no alert and no submission. What the
exchanges note is never an error. -/
theorem journal_of_run (h : (start endpoint policy panel).run sections = some w) :
    let noted := (start endpoint policy panel).trace Session.notes sections
    let alerted := (start endpoint policy panel).trace alertsOf sections
    w.session.notes = noted.map (·.2) ∧
    w.session.panel.alerts = panel.alerts ++ alerted.map (·.2) ∧
    (∀ more w', w.run more = some w' → w.Later w') ∧
    own none noted = [] ∧
    (∀ id, Story endpoint (w.session.standing? id) (own (some id) noted)) ∧
    (∀ id, (own (some id) noted).countP (·.level = .error) =
      if w.session.state? id = some .faulted then 1 else 0) ∧
    own none alerted = sections.filterMap Section.message? ∧
    (∀ id, own (some id) alerted =
      if w.session.state? id = some .alerted then [Panel.alertMessage] else []) ∧
    (∀ id w', w.step (.task (.finish id)) = some w' →
      ∃ st, w'.session.state? id = some st ∧ st.isTerminal = true) ∧
    (∀ sec w', w.step sec = some w' →
      ((∃ c, sec = .mark c) ∨ ∃ i c missing, sec = .proceed i ∧
        w.calls[i]? = some (.marked c) ∧ c.request = .error missing) →
      w'.session.notes = w.session.notes ∧ w'.session.panel.alerts = w.session.panel.alerts ∧
        w'.session.submissions = w.session.submissions ∧
        w'.traffic.tasks = w.traffic.tasks) ∧
    ∀ {σ : Type} (service : Http.Service σ) (s : σ) (r : Request),
      ∀ n ∈ ((Exchange.analyze service.observed endpoint r).run (s, [])).1.notes,
        n.level ≠ .error := by
  refine ⟨notes_eq_trace h, alerts_eq_trace h, fun _ _ => later_of_run h, own_none_notes h,
    story_of_run h, fun id => ?_, own_none_alerts h, own_alerts h,
    fun _ _ => isTerminal_finish (kept_of_run h).sound, fun _ _ => refused_step,
    fun service s r => Exchange.level_notes service s endpoint r⟩
  rw [(story_of_run h id).countP_error, Session.state?_eq_standing?]

/-- A submission that is answered with an error of the server, an alert that was asked for, and two
submissions of which the second displaces the first and is refused. -/
def troubled : List Section :=
  [.mark (.submit ⟨.solidity, "a", "", none⟩), .proceed 0, .proceed 0, .proceed 0,
    .task (.answer 0 (.error (.status ⟨500⟩))), .task (.wake 0 .answered), .task (.finish 0),
    .alert "Back soon",
    .mark (.submit ⟨.bytecode, "b", "", none⟩), .proceed 1, .proceed 1, .proceed 1,
    .mark (.submit ⟨.bytecode, "c", "", none⟩), .proceed 2, .proceed 2, .proceed 2,
    .task (.wake 1 .cancelled), .task (.finish 1),
    .task (.answer 2 (.error (.malformedBody ⟨.trailingCharacters, ⟨1, 2⟩⟩))),
    .task (.wake 2 .answered), .task (.finish 2)]

/-- The first was alerted, the last is noted as an error, and the one between them as neither. -/
theorem journal_troubled :
    ∃ w, (start { scheme := "http", path := .rooted [] } .cancelPrevious
        (.fresh .plain)).run troubled = some w ∧
      w.session.panel.alerts.length = 2 ∧
      let noted := (start { scheme := "http", path := .rooted [] } .cancelPrevious
        (.fresh .plain)).trace Session.notes troubled
      let alerted := (start { scheme := "http", path := .rooted [] } .cancelPrevious
        (.fresh .plain)).trace alertsOf troubled
      own none alerted = ["Back soon"] ∧ own (some 0) alerted = [Panel.alertMessage] ∧
      own (some 1) alerted = [] ∧ own (some 2) alerted = [] ∧
      (own (some 1) noted).countP (·.level = .error) = 0 ∧
      (own (some 2) noted).countP (·.level = .error) = 1 := by
  obtain ⟨w, h, hlength, h0, h1, h2⟩ :
      ∃ w, (start { scheme := "http", path := .rooted [] } .cancelPrevious
          (.fresh .plain)).run troubled = some w ∧
        w.session.panel.alerts.length = 2 ∧ w.session.state? 0 = some .alerted ∧
        w.session.state? 1 = some .superseded ∧ w.session.state? 2 = some .faulted :=
    ⟨_, rfl, rfl, rfl, rfl, rfl⟩
  obtain ⟨_, _, _, _, _, herror, hasked, halerted, _⟩ := journal_of_run h
  refine ⟨w, h, hlength, hasked, ?_, ?_, ?_, ?_, ?_⟩
  · rw [halerted, h0, if_pos rfl]
  · rw [halerted, h1, if_neg nofun]
  · rw [halerted, h2, if_neg nofun]
  · rw [herror, h1, if_neg nofun]
  · rw [herror, h2, if_pos rfl]

end Interleaving

end TaintClient

/-
  Who owns the region. Two kinds of sections write to it: on a plain page the one that marks a
  submission, also for a form that turns out to lack an element; and a last section that renders a
  report. Each writes the markup and the response together. So after any run, of either policy and
  in any order, the region is what the last of these sections wrote.
-/
import TaintClient.Proofs.Session.LabelCount

namespace TaintClient

/-- What is written to the region. -/
inductive RegionWrite
  | placeholder
  | report (r : Response)

/-- The region after it was written to. -/
def RegionWrite.region : RegionWrite → String × Option Response
  | .placeholder => (Report.placeholder, none)
  | .report r => (Report.html r, some r)

namespace Panel

/-- The markup and the response of the region belong together: nothing was written yet, or a mark
was, which shows on a plain page only, or a report. -/
inductive Coherent (p : Panel) : Prop
  | blank (h : p.region = ("", none))
  | marked (hp : p.variant = .plain) (h : p.region = (Report.placeholder, none))
  | report (r : Response) (h : p.region = (Report.html r, some r))

variable {p q : Panel}

theorem Coherent.congr (h : p.Coherent) (hv : q.variant = p.variant) (hr : q.region = p.region) :
    q.Coherent := by
  cases h with
  | blank h => exact .blank (hr.trans h)
  | marked hp h => exact .marked (hv.trans hp) (hr.trans h)
  | report r h => exact .report r (hr.trans h)

theorem Coherent.html_eq (h : p.Coherent) {r : Response} (hr : p.lastResponse = some r) :
    p.html = Report.html r := by
  cases h with
  | blank h => cases hr.symm.trans (congrArg Prod.snd h)
  | marked _ h => cases hr.symm.trans (congrArg Prod.snd h)
  | report q h =>
    cases hr.symm.trans (congrArg Prod.snd h)
    exact congrArg Prod.fst h

theorem Coherent.html_of_none (h : p.Coherent) (hr : p.lastResponse = none) :
    p.html = "" ∨ p.variant = .plain ∧ p.html = Report.placeholder := by
  cases h with
  | blank h => exact Or.inl (congrArg Prod.fst h)
  | marked hp h => exact Or.inr ⟨hp, congrArg Prod.fst h⟩
  | report q h => cases hr.symm.trans (congrArg Prod.snd h)

end Panel

namespace Interleaving

variable {w w' : Interleaving} {sec : Section} {endpoint : Url} {policy : ResubmitPolicy}
  {variant : PageVariant} {panel : Panel} {sections : List Section} {id : Nat}

/-- What a section wrote to the region, told from the state after it: a mark writes to a plain
page, and a last section writes the response that its submission was rendered for. -/
def written (w' : Interleaving) : Section → Option RegionWrite
  | .mark _ =>
    match w'.session.panel.variant with
    | .plain => some .placeholder
    | .report => none
  | .task (.finish id) =>
    match w'.session.state? id, (w'.traffic.tasks id).answer with
    | some .rendered, some (.ok r) => some (.report r)
    | _, _ => none
  | _ => none

/-- What the sections of a run write to the region, the oldest first. -/
def writes (w : Interleaving) : List Section → List RegionWrite
  | [] => []
  | sec :: rest =>
    match w.step sec with
    | none => []
    | some w' => (w'.written sec).toList ++ w'.writes rest

/-! ## One section -/

/-- A last section shows the response that it is rendered for, or it leaves the region alone. -/
theorem region_finish (hs : w.traffic.Sound) (h : w.step (.task (.finish id)) = some w') :
    (∃ r, (w.traffic.tasks id).answer = some (.ok r) ∧
      w'.session.state? id = some .rendered ∧
      w'.session.panel.region = (Report.html r, some r)) ∨
    (w'.session.state? id ≠ some .rendered ∧
      w'.session.panel.region = w.session.panel.region) := by
  obtain ⟨hadv, _⟩ := step_task h
  have hst : w.session.state? id = some .submitted := Traffic.state?_of_advance hadv
  obtain ⟨sub, _, _, _, ⟨_, he⟩ | ⟨_, result, hres, he⟩⟩ := Traffic.advance_finish hs hadv
  · have he : w'.session = w.session.supersede id sub.request.mode := he
    refine Or.inr ⟨?_, ?_⟩ <;> rw [he]
    · rw [(Session.ends_supersede _ _ _).state?_eq, if_pos rfl, hst]
      simp
    · exact Panel.region_release _ _
  · have he : w'.session = w.session.apply id sub.request.mode result := he
    have hstate : w'.session.state? id = some (.ofResult result) := by
      rw [he, (Session.ends_apply _ _ _ _).state?_eq, if_pos rfl, hst, Option.map_some]
    have hregion : w'.session.panel.region =
        (w.session.panel.finish sub.request.mode result).2.1.region :=
      congrArg (fun s => s.panel.region) he
    rw [hregion, hstate, Panel.region_finish]
    cases result with
    | ok r => exact Or.inl ⟨r, hres, rfl, rfl⟩
    | error f =>
      refine Or.inr ⟨fun hf => ?_, rfl⟩
      simp only [SubmissionState.ofResult, Option.some_inj] at hf
      split at hf <;> cases hf

/-- A section that neither marks the page nor is the last one of a task does not write. -/
theorem region_step_of_other (h : w.step sec = some w') (hmark : ∀ c, sec ≠ .mark c)
    (hfinish : ∀ id, sec ≠ .task (.finish id)) :
    w'.session.panel.region = w.session.panel.region := by
  cases sec with
  | mark c => exact absurd rfl (hmark c)
  | alert message =>
    cases h
    rfl
  | proceed i =>
    obtain ⟨g, _, _, rfl⟩ := step_proceed h
    exact Session.region_proceed _ g
  | task k =>
    have hsame := Traffic.session_advance (step_task h).1 fun id hk => hfinish id (congrArg _ hk)
    exact congrArg (·.panel.region) hsame

theorem region_mark {c : Call} (h : w.step (.mark c) = some w') :
    w'.session.panel.region =
      match w.session.panel.variant with
      | .plain => (Report.placeholder, none)
      | .report => w.session.panel.region := by
  cases h
  exact Panel.region_start _ _

/-- A section leaves in the region what it wrote, or what was there. -/
theorem region_step (hs : w.traffic.Sound) (h : w.step sec = some w') :
    w'.session.panel.region =
      ((w'.written sec).map RegionWrite.region).getD w.session.panel.region := by
  by_cases hmark : ∃ c, sec = .mark c
  · obtain ⟨c, rfl⟩ := hmark
    have hv : w'.session.panel.variant = w.session.panel.variant := by
      cases h
      exact Panel.variant_start _ _
    rw [region_mark h, written, hv]
    cases w.session.panel.variant <;> rfl
  · by_cases hfinish : ∃ id, sec = .task (.finish id)
    · obtain ⟨id, rfl⟩ := hfinish
      obtain ⟨hadv, _⟩ := step_task h
      obtain ⟨_, _, _, htasks, _⟩ := Traffic.advance_finish hs hadv
      obtain ⟨r, hres, hst, hr⟩ | ⟨hst, hr⟩ := region_finish hs h
      · rw [hr, written, hst, htasks, hres]
        rfl
      · rw [hr, written]
        split
        · rename_i hst' _
          exact absurd hst' hst
        · rfl
    · rw [region_step_of_other h (fun c hc => hmark ⟨c, hc⟩) fun id hk => hfinish ⟨id, hk⟩]
      cases sec with
      | mark c => exact absurd ⟨c, rfl⟩ hmark
      | task k =>
        cases k with
        | finish id => exact absurd ⟨id, rfl⟩ hfinish
        | _ => rfl
      | _ => rfl

/-! ## A whole run -/

/-- After a run the region is what the last section that wrote to it left there. -/
theorem region_run (hs : w.traffic.Sound) (h : w.run sections = some w') :
    w'.session.panel.region =
      ((w.writes sections).getLast?.map RegionWrite.region).getD w.session.panel.region := by
  induction sections generalizing w with
  | nil =>
    cases h
    rfl
  | cons sec rest ih =>
    obtain ⟨u, hu, hrest⟩ := Steps.run_cons_eq_some.mp h
    rw [ih (sound_step hs hu) hrest, region_step hs hu, writes, hu]
    show _ = (((u.written sec).toList ++ u.writes rest).getLast?.map _).getD _
    rw [List.getLast?_append]
    cases (u.writes rest).getLast? with
    | some x => rfl
    | none => cases u.written sec <;> rfl

/-! ## The law of the region -/

theorem plain_of_written (h : w'.written sec = some .placeholder) :
    w'.session.panel.variant = .plain := by
  cases sec with
  | mark c =>
    simp only [written] at h
    split at h
    · assumption
    · cases h
  | task k =>
    cases k with
    | finish id =>
      simp only [written] at h
      split at h <;> cases h
    | _ => cases h
  | _ => cases h

theorem coherent_step (hw : w.Accounted panel) (hc : w.session.panel.Coherent)
    (h : w.step sec = some w') : w'.session.panel.Coherent := by
  have hr := region_step hw.sound h
  have hv : w'.session.panel.variant = w.session.panel.variant :=
    (accounted_step hw h).variant.trans hw.variant.symm
  cases hwritten : w'.written sec with
  | none =>
    have hr : w'.session.panel.region = w.session.panel.region := by rw [hr, hwritten]; rfl
    exact hc.congr hv hr
  | some x =>
    rw [hwritten] at hr
    cases x with
    | placeholder => exact .marked (plain_of_written hwritten) hr
    | report r => exact .report r hr

theorem coherent_of_run (hp : panel.AtRest) (hc : panel.Coherent)
    (h : (start endpoint policy panel).run sections = some w) : w.session.panel.Coherent :=
  (Steps.invariant_of_run (P := fun u => u.Accounted panel ∧ u.session.panel.Coherent)
    (fun _ _ _ hu hv => ⟨accounted_step hu.1 hv, coherent_step hu.1 hu.2 hv⟩)
    ⟨accounted_start hp, hc⟩ h).2

/-- **The last write owns the region.** On a page that began without submissions, under either
policy and in every interleaving, the region is what the last section that wrote to it left there,
and blank before any did. A mark writes the placeholder on a plain page, and nothing on a report
page; a last section writes the response that its submission was rendered for, and nothing if it
ended otherwise; no other section writes. So the markup is always that of the response. -/
theorem region_eq_last_written {labels : List (Mode × String)}
    (h : (start endpoint policy ((Panel.fresh variant).withLabels labels)).run sections = some w) :
    w.session.panel.region =
      (((start endpoint policy ((Panel.fresh variant).withLabels labels)).writes
        sections).getLast?.map RegionWrite.region).getD ("", none) ∧
    (∀ sec w', w.step sec = some w' →
      (∀ c, sec = .mark c → variant = .plain →
        w'.session.panel.region = (Report.placeholder, none)) ∧
      (∀ c, sec = .mark c → variant = .report →
        w'.session.panel.region = w.session.panel.region) ∧
      (∀ id, sec = .task (.finish id) → w'.session.state? id = some .rendered →
        ∃ r, (w.traffic.tasks id).answer = some (.ok r) ∧
          w'.session.panel.region = (Report.html r, some r)) ∧
      (∀ id, sec = .task (.finish id) → w'.session.state? id ≠ some .rendered →
        w'.session.panel.region = w.session.panel.region) ∧
      ((∀ c, sec ≠ .mark c) → (∀ id, sec ≠ .task (.finish id)) →
        w'.session.panel.region = w.session.panel.region)) ∧
    (∀ r, w.session.panel.lastResponse = some r → w.session.panel.html = Report.html r) ∧
    (w.session.panel.lastResponse = none →
      w.session.panel.html = "" ∨
        variant = .plain ∧ w.session.panel.html = Report.placeholder) := by
  have hrest := Panel.atRest_withLabels (Panel.atRest_fresh variant) labels
  have hblank : ((Panel.fresh variant).withLabels labels).region = ("", none) :=
    Panel.region_withLabels _ labels
  have hacc := accounted_of_run hrest h
  have hcoh := coherent_of_run hrest (.blank hblank) h
  have hv : w.session.panel.variant = variant :=
    hacc.variant.trans (Panel.variant_withLabels _ labels)
  refine ⟨?_, fun sec w' hstep => ⟨?_, ?_, ?_, ?_, ?_⟩, fun r hr => hcoh.html_eq hr, fun hr => ?_⟩
  · rw [region_run (Traffic.sound_start endpoint policy _) h]
    exact congrArg _ hblank
  · rintro c rfl hp
    rw [region_mark hstep, hv, hp]
  · rintro c rfl hp
    rw [region_mark hstep, hv, hp]
  · rintro id rfl hst
    obtain ⟨r, hres, _, hr⟩ | ⟨hne, _⟩ := region_finish hacc.sound hstep
    · exact ⟨r, hres, hr⟩
    · exact absurd hst hne
  · rintro id rfl hne
    obtain ⟨_, _, hst, _⟩ | ⟨_, hr⟩ := region_finish hacc.sound hstep
    · exact absurd hst hne
    · exact hr
  · exact region_step_of_other hstep
  · rw [← hv]
    exact hcoh.html_of_none hr

/-- Two submissions of which the older is answered last. -/
def overlapped : List Section :=
  [.mark (.submit ⟨.solidity, "a", "", none⟩), .proceed 0, .proceed 0, .proceed 0,
    .mark (.submit ⟨.bytecode, "b", "", none⟩), .proceed 1, .proceed 1, .proceed 1,
    .task (.answer 1 (.ok { data := "new" })), .task (.wake 1 .answered), .task (.finish 1),
    .task (.answer 0 (.ok { data := "old" })), .task (.wake 0 .answered), .task (.finish 0)]

/-- Where the last response wins, the older one owns the region, until a form without elements
marks the page. -/
theorem region_overlapped :
    ∃ w w', (start { scheme := "http", path := .rooted [] } .lastResponseWins
        ((Panel.fresh .plain).withLabels [])).run overlapped = some w ∧
      w.step (.mark (.submitForm .solidity .empty)) = some w' ∧
      w.session.panel.region =
        (Report.html { data := "old" }, some { data := "old" }) ∧
      w'.session.panel.region = (Report.placeholder, none) := by
  obtain ⟨w, w', h, hstep, hwrites⟩ :
      ∃ w w', (start { scheme := "http", path := .rooted [] } .lastResponseWins
          ((Panel.fresh .plain).withLabels [])).run overlapped = some w ∧
        w.step (.mark (.submitForm .solidity .empty)) = some w' ∧
        (start { scheme := "http", path := .rooted [] } .lastResponseWins
          ((Panel.fresh .plain).withLabels [])).writes overlapped =
            [.placeholder, .placeholder, .report { data := "new" }, .report { data := "old" }] :=
    ⟨_, _, rfl, rfl, rfl⟩
  obtain ⟨hlast, hsection, _⟩ := region_eq_last_written h
  rw [hwrites] at hlast
  exact ⟨w, w', h, hstep, hlast, (hsection _ _ hstep).1 _ rfl rfl⟩

end Interleaving

end TaintClient

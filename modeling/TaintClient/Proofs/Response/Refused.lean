/-
  Bodies that are refused, and what becomes of their submissions. Every body that is read is one
  JSON text, an object or a list. Any other body of a successful answer is a malformed one: the
  submission it answers ends faulted, unless a newer one took its place, and the region is left
  as it was.
-/
import TaintClient.Proofs.Exchange.Result
import TaintClient.Proofs.Response.Accepted
import TaintClient.Proofs.Session.Region

namespace TaintClient

namespace Response

open Json

variable {b : Bracket} {es vs : List (List Char)} {ms : List Member} {r : Response}
  {s t o : List Char}

/-! ## What is read is a JSON text -/

/-- An entry of a bracket: what stands before its value, and the value. -/
def IsEntry (b : Bracket) (e : List Char) : Prop := ∃ i v, Intro b i ∧ Value v ∧ e = i ++ v

theorem Followed.wellFormed (h : Followed b es s) (hes : ∀ e ∈ es, IsEntry b e) :
    WellFormed (.behind b) s := by
  induction h with
  | close hu => exact .close hu
  | @more e u w t es hu hw _ ih =>
    obtain ⟨i, v, hi, hv, rfl⟩ := hes e List.mem_cons_self
    have ht := ih fun e he => hes e (List.mem_cons_of_mem _ he)
    have hentries := WellFormed.entry (hi.blank_append hw) hv ht
    simp only [List.append_assoc] at hentries ⊢
    exact .more hu hentries

theorem Enclosed.value (h : Enclosed b es s) (hes : ∀ e ∈ es, IsEntry b e) : Value s := by
  cases h with
  | empty hu => exact .empty b hu
  | @entries e u t es hu ht =>
    obtain ⟨i, v, hi, hv, rfl⟩ := hes e List.mem_cons_self
    have ht := ht.wellFormed fun e he => hes e (List.mem_cons_of_mem _ he)
    have hentries := WellFormed.entry (hi.blank_append hu) hv ht
    simp only [List.append_assoc] at hentries ⊢
    exact .bracket hentries

theorem IsMember.isEntry {m : Member} (h : IsMember m s) (hv : Value m.value) :
    IsEntry .object s := by
  obtain ⟨hn, hu, hw⟩ := h
  exact ⟨_, _, .object (u := []) nofun hn.loose hu hw, hv, by simp⟩

/-- What a draft takes are values. -/
theorem Draft.TakesAll.value {d d' : Draft} (h : d.TakesAll ms d') : ∀ m ∈ ms, Value m.value := by
  induction h with
  | nil => nofun
  | cons htakes _ ih =>
    intro m hm
    obtain rfl | hm := List.mem_cons.mp hm
    · cases htakes with
      | unknown _ hv => exact hv
      | known _ _ hv => exact hv.value
    · exact ih m hm

theorem Writes.value (h : Writes ms r) : ∀ m ∈ ms, Value m.value := by
  obtain ⟨_, htakes, _⟩ := writes_iff.mp h
  exact htakes.value

theorem IsObject.value (h : IsObject r o) : Value o := by
  obtain ⟨hm, ho, hr⟩ := h
  refine ho.value fun e he => ?_
  obtain ⟨i, hi, rfl⟩ := List.getElem_of_mem he
  have hi' := hm.length_eq ▸ hi
  exact (List.Forall₂.get hm hi' hi).isEntry (hr.value _ (List.getElem_mem hi'))

/-- No value is left out of a list that is not too long. -/
theorem map_value_inOrder {fs : List Field} (hlen : vs.length ≤ fs.length) :
    (inOrder fs vs).map (·.value) = vs := by
  induction fs generalizing vs with
  | nil => rw [List.eq_nil_of_length_eq_zero (Nat.le_zero.mp hlen)]; rfl
  | cons f fs ih =>
    cases vs with
    | nil => rfl
    | cons v vs => exact congrArg (v :: ·) (ih (Nat.le_of_succ_le_succ hlen))

theorem IsList.value (h : IsList r o) : Value o := by
  obtain ⟨ho, hlen, hr⟩ := h
  refine ho.value fun v hv => ⟨[], v, .list nofun, ?_, rfl⟩
  rw [← map_value_inOrder hlen] at hv
  obtain ⟨m, hm, rfl⟩ := List.mem_map.mp hv
  exact hr.value m hm

theorem Padded.mono {p q : List Char → Prop} (h : Padded p s) (hpq : ∀ o, p o → q o) :
    Padded q s := by
  obtain ⟨hu, ho, hw⟩ := h
  exact .mk hu (hpq _ ho) hw

/-- A body that is neither form is refused. -/
theorem exists_fault {s : String}
    (h : ∀ r, ¬ Padded (IsObject r) s.toList ∧ ¬ Padded (IsList r) s.toList) :
    ∃ fault, decode s = .error fault := by
  cases hs : decode s with
  | error fault => exact ⟨fault, rfl⟩
  | ok r =>
    obtain ho | hl := decode_eq_ok_iff.mp hs
    · exact absurd ho (h r).1
    · exact absurd hl (h r).2

end Response

namespace Interleaving

variable {w w' : Interleaving} {id : Nat} {fault : Json.Fault}

/-- A last section that finds a malformed body leaves the region alone; its submission ends
faulted, or superseded if it is cancelled. -/
theorem finish_of_malformedBody (hs : w.traffic.Sound)
    (ha : (w.traffic.tasks id).answer = some (.error (.malformedBody fault)))
    (h : w.step (.task (.finish id)) = some w') :
    w'.session.panel.region = w.session.panel.region ∧
      w'.session.state? id =
        some (if w.session.isCancelled id then .superseded else .faulted) := by
  obtain ⟨hadv, _⟩ := step_task h
  have hst : w.session.state? id = some .submitted := Traffic.state?_of_advance hadv
  obtain ⟨sub, hsub, _, _, ⟨hc, he⟩ | ⟨hc, result, hres, he⟩⟩ := Traffic.advance_finish hs hadv
  · have he : w'.session = w.session.supersede id sub.request.mode := he
    have hcan : w.session.isCancelled id = true := by
      show w.traffic.session.submissions[id]?.any _ = true
      rw [hsub]
      exact hc
    rw [he, hcan, (Session.ends_supersede _ _ _).state?_eq, if_pos rfl, hst, if_pos rfl]
    exact ⟨Panel.region_release _ _, rfl⟩
  · have he : w'.session = w.session.apply id sub.request.mode result := he
    have hcan : w.session.isCancelled id = false := by
      show w.traffic.session.submissions[id]?.any _ = false
      rw [hsub]
      exact hc
    obtain rfl : Except.error (.malformedBody fault) = result := Option.some_inj.mp (ha ▸ hres)
    rw [he, hcan, (Session.ends_apply _ _ _ _).state?_eq, if_pos rfl, hst,
      if_neg Bool.false_ne_true]
    exact ⟨Panel.region_finish w.session.panel sub.request.mode (.error (.malformedBody fault)),
      rfl⟩

end Interleaving

namespace Response

open Json

/-- **Which bodies are read.** A body is read as a response exactly if it is, up to blanks around
it, an object whose members write that response, or a list whose values do in the order of the
fields; either one is a JSON text. Any other body of a successful answer is a malformed one, and
in every run the last section of its submission leaves the region as it was and ends the
submission faulted, or superseded where it is cancelled. -/
theorem read_iff_object_or_list (s : String) :
    (∀ r, decode s = .ok r ↔ Padded (IsObject r) s.toList ∨ Padded (IsList r) s.toList) ∧
    (∀ r, decode s = .ok r → Padded Value s.toList) ∧
    ((∀ r, ¬ Padded (IsObject r) s.toList ∧ ¬ Padded (IsList r) s.toList) →
      ∃ fault, decode s = .error fault ∧
        ∀ endpoint (a : Http.Answer), a.status = .ok → a.isWhole = true →
          String.ofList (Text.Utf8.decodeLossy a.body) = s →
          (Exchange.read endpoint a).result = .error (.malformedBody fault) ∧
          ∀ policy panel sections w w' id,
            (Interleaving.start endpoint policy panel).run sections = some w →
            (w.traffic.tasks id).answer = some (Exchange.read endpoint a).result →
            w.step (.task (.finish id)) = some w' →
            w'.session.panel.region = w.session.panel.region ∧
              w'.session.state? id =
                some (if w.session.isCancelled id then .superseded else .faulted)) := by
  refine ⟨fun r => decode_eq_ok_iff, fun r h => ?_, fun h => ?_⟩
  · obtain ho | hl := decode_eq_ok_iff.mp h
    · exact ho.mono fun _ => IsObject.value
    · exact hl.mono fun _ => IsList.value
  · obtain ⟨fault, hfault⟩ := exists_fault h
    refine ⟨fault, hfault, fun endpoint a hstatus hwhole hbody => ?_⟩
    have hread : (Exchange.read endpoint a).result = .error (.malformedBody fault) := by
      rw [Exchange.read_result, if_pos hstatus, if_pos hwhole, Exchange.bodyOf, hbody, hfault]
      rfl
    refine ⟨hread, fun policy panel sections w w' id hrun hanswer hstep => ?_⟩
    exact Interleaving.finish_of_malformedBody (Interleaving.sound_of_run hrun)
      (hanswer.trans (congrArg some hread)) hstep

theorem Padded.head_eq {is : List Char → Prop} {x y : Char} (h : Padded is (x :: s))
    (his : ∀ o, is o → ∃ t, o = y :: t) (hx : Cursor.isSpace x = false) : x = y := by
  generalize hs : x :: s = s' at h
  cases h with
  | @mk u o w hu ho hw =>
    cases u with
    | nil =>
      obtain ⟨t, rfl⟩ := his o ho
      cases hs
      rfl
    | cons z u =>
      cases hs
      rw [hu x List.mem_cons_self] at hx
      cases hx

theorem IsObject.exists_cons (h : IsObject r o) : ∃ t, o = '\x7b' :: t := by
  obtain ⟨_, ho, _⟩ := h
  exact ho.exists_cons

theorem IsList.exists_cons (h : IsList r o) : ∃ t, o = '[' :: t := by
  obtain ⟨ho, _, _⟩ := h
  exact ho.exists_cons

/-- The service answers with a number. -/
def numberAnswer : Http.Answer := { status := .ok, body := [0x31] }

/-- One submission, and that answer to it. -/
def numberRun : List Section :=
  [.mark (.submit ⟨.solidity, "a", "", none⟩), .proceed 0, .proceed 0, .proceed 0,
    .task (.answer 0 (Exchange.read { scheme := "http", path := .rooted [] } numberAnswer).result),
    .task (.wake 0 .answered)]

/-- A number is no response, so that submission ends faulted, and the mark stays in the region. -/
theorem faulted_on_number :
    ∃ w w', (Interleaving.start { scheme := "http", path := .rooted [] } .lastResponseWins
        (.fresh .plain)).run numberRun = some w ∧
      w.step (.task (.finish 0)) = some w' ∧
      w'.session.panel.region = (Report.placeholder, none) ∧
      w'.session.state? 0 = some .faulted := by
  obtain ⟨w, w', hrun, hstep, hregion, hanswer, hcan⟩ :
      ∃ w w', (Interleaving.start { scheme := "http", path := .rooted [] } .lastResponseWins
          (.fresh .plain)).run numberRun = some w ∧
        w.step (.task (.finish 0)) = some w' ∧
        w.session.panel.region = (Report.placeholder, none) ∧
        (w.traffic.tasks 0).answer =
          some (Exchange.read { scheme := "http", path := .rooted [] } numberAnswer).result ∧
        w.session.isCancelled 0 = false := ⟨_, _, rfl, rfl, rfl, rfl, rfl⟩
  obtain ⟨_, _, hrefused⟩ := read_iff_object_or_list "1"
  obtain ⟨fault, _, hread⟩ := hrefused fun r =>
    ⟨fun h => absurd (h.head_eq (fun _ => IsObject.exists_cons) (by decide)) (by decide),
      fun h => absurd (h.head_eq (fun _ => IsList.exists_cons) (by decide)) (by decide)⟩
  obtain ⟨_, hfinish⟩ := hread { scheme := "http", path := .rooted [] } numberAnswer rfl rfl
    (by decide +kernel)
  obtain ⟨hsame, hstate⟩ := hfinish _ _ _ _ _ _ hrun hanswer hstep
  rw [hcan, if_neg Bool.false_ne_true] at hstate
  exact ⟨w, w', hrun, hstep, hsame.trans hregion, hstate⟩

/-- A list is read as a response, though it is no object. -/
theorem read_list :
    decode "[\"x\"]" = .ok { data := "x" } ∧
      ∀ r, ¬ Padded (IsObject r) "[\"x\"]".toList := by
  have hx : IsString "x" ['"', 'x', '"'] :=
    .mk (.cons (.plain (by decide) (by decide) (by decide)) .nil)
  have henclosed : Enclosed .list [['"', 'x', '"']] "[\"x\"]".toList :=
    .entries (u := []) nofun (.close (u := []) nofun)
  have hlist : IsList { data := "x" } "[\"x\"]".toList := by
    refine .mk henclosed (by decide)
      ⟨⟨_, rfl, hx⟩, .absent, .absent, .absent, .absent, fun m hm hnone => ?_⟩
    obtain rfl := List.mem_singleton.mp hm
    cases hnone
  refine ⟨decode_eq_ok_iff.mpr (.inr (.mk (u := []) (w := []) nofun hlist nofun)), fun r h => ?_⟩
  exact absurd (h.head_eq (fun _ => IsObject.exists_cons) (by decide)) (by decide)

end Response

end TaintClient

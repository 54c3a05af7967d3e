/-
  What a body may be changed in without being read as another report: the order of its members,
  the blanks between its signs, the spelling of its names and texts, members of other names, and
  members that are `null`. Each such change is an `Edit` of the members, blanks and the spelling
  of names being no part of them; a text has its members in one way only (`IsObjectOf.unique`), so
  it is said for every text what its members are edited into.
-/
import Mathlib.Logic.Relation
import TaintClient.Proofs.Json.Rewriting
import TaintClient.Proofs.Response.Refused
import TaintClient.Proofs.Response.RoundTrip

namespace TaintClient.Response

open Json

variable {b : Bracket} {e e' s s' t t' u u' v v' w w' n n' o o' : List Char}
  {es es' : List (List Char)} {m m' : Member} {ms ms' : List Member} {r : Response} {f : Field}

/-- An object with the members `ms`, up to blanks around it. -/
inductive IsObjectOf (ms : List Member) : List Char → Prop
  | mk {es : List (List Char)} {s : List Char} (hms : List.Forall₂ IsMember ms es)
    (hv : ∀ m ∈ ms, Value m.value) (hs : Padded (Enclosed .object es) s) : IsObjectOf ms s

/-! ## The members of a text -/

/-- Blanks end where something else begins. -/
theorem blank_append_inj (hu : Blank u) (hu' : Blank u')
    (hs : Begins (fun x => Cursor.isSpace x = false) s)
    (hs' : Begins (fun x => Cursor.isSpace x = false) s') (h : u ++ s = u' ++ s') : s = s' := by
  obtain ⟨p, hp⟩ := Cursor.skipSpace_append hu hs.head? Place.start
  obtain ⟨q, hq⟩ := Cursor.skipSpace_append hu' hs'.head? Place.start
  rw [h, hq] at hp
  cases hp
  rfl

/-- A text ends at the first mark that is not part of a spelling. -/
theorem spelling_append_inj (h : Spelling n w) (h' : Spelling n' w')
    (heq : w ++ '"' :: t = w' ++ '"' :: t') : n = n' ∧ t = t' := by
  obtain ⟨p, hp⟩ := reads_readText h t Place.start
  obtain ⟨q, hq⟩ := reads_readText h' t' Place.start
  rw [heq, hq] at hp
  cases hp
  exact ⟨rfl, rfl⟩

/-- A value ends in one place only. -/
theorem value_append_inj (h : Value v) (h' : Value v') (ht : EndsNumber t) (ht' : EndsNumber t')
    (heq : v ++ t = v' ++ t') : v = v' ∧ t = t' := by
  obtain ⟨p, hp⟩ := passes_skipValue h (u := []) nofun ht Place.start
  obtain ⟨q, hq⟩ := passes_skipValue h' (u := []) nofun ht' Place.start
  rw [heq, hq] at hp
  cases hp
  exact ⟨List.append_cancel_right heq, rfl⟩

theorem IsMember.begins (h : IsMember m e) (t : List Char) :
    Begins (fun x => Cursor.isSpace x = false) (e ++ t) := by
  obtain ⟨_, _, _⟩ := h
  exact ⟨_, _, rfl, rfl⟩

theorem begins_cons {x : Char} (hx : Cursor.isSpace x = false) (s : List Char) :
    Begins (fun x => Cursor.isSpace x = false) (x :: s) := ⟨x, s, rfl, hx⟩

theorem IsMember.append_inj (h : IsMember m e) (h' : IsMember m' e') (hv : Value m.value)
    (hv' : Value m'.value) (ht : EndsNumber t) (ht' : EndsNumber t') (heq : e ++ t = e' ++ t') :
    m = m' ∧ t = t' := by
  obtain ⟨hn, hu, hw⟩ := h
  obtain ⟨hn', hu', hw'⟩ := h'
  simp only [List.append_assoc, List.cons_append] at heq
  obtain ⟨hname, heq⟩ := spelling_append_inj hn hn' (List.cons.inj heq).2
  have hcolon := blank_append_inj hu hu' (begins_cons rfl _) (begins_cons rfl _) heq
  have hspace {v : List Char} (hv : Value v) (t : List Char) :
      Begins (fun x => Cursor.isSpace x = false) (v ++ t) :=
    (Value.begins hv).append t |>.mono fun _ hx => hx.1
  have hvalue := blank_append_inj hw hw' (hspace hv t) (hspace hv' t') (List.cons.inj hcolon).2
  obtain ⟨hvalue, hrest⟩ := value_append_inj hv hv' ht ht' hvalue
  obtain ⟨name, value⟩ := m
  obtain ⟨name', value'⟩ := m'
  dsimp only at hname hvalue
  exact ⟨by rw [hname, hvalue], hrest⟩

/-- Behind a member, a text has its members in one way only. -/
theorem Followed.members_unique (hms : List.Forall₂ IsMember ms es)
    (hms' : List.Forall₂ IsMember ms' es') (hv : ∀ m ∈ ms, Value m.value)
    (hv' : ∀ m ∈ ms', Value m.value) (hs : Followed .object es s) (hs' : Followed .object es' s')
    (heq : s ++ t = s' ++ t') : ms = ms' := by
  induction hs generalizing ms ms' es' s' with
  | close hu =>
    cases hms
    cases hs' with
    | close => cases hms'; rfl
    | more hu' =>
      simp only [List.append_assoc, List.cons_append] at heq
      cases blank_append_inj hu hu' (begins_cons rfl _) (begins_cons rfl _) heq
  | more hu hw hs ih =>
    cases hs' with
    | close hu' =>
      simp only [List.append_assoc, List.cons_append] at heq
      cases blank_append_inj hu hu' (begins_cons rfl _) (begins_cons rfl _) heq
    | more hu' hw' hs' =>
      cases hms with
      | cons hm hms =>
        cases hms' with
        | cons hm' hms' =>
          rw [List.forall_mem_cons] at hv hv'
          simp only [List.append_assoc, List.cons_append] at heq
          have hcomma := blank_append_inj hu hu' (begins_cons rfl _) (begins_cons rfl _) heq
          have hmember := blank_append_inj hw hw' (hm.begins _) (hm'.begins _)
            (List.cons.inj hcomma).2
          obtain ⟨rfl, hrest⟩ := hm.append_inj hm' hv.1 hv'.1 (hs.endsNumber t)
            (hs'.endsNumber t') hmember
          rw [ih hms hms' hv.2 hv'.2 hs' hrest]

theorem Enclosed.members_unique (hms : List.Forall₂ IsMember ms es)
    (hms' : List.Forall₂ IsMember ms' es') (hv : ∀ m ∈ ms, Value m.value)
    (hv' : ∀ m ∈ ms', Value m.value) (hs : Enclosed .object es s) (hs' : Enclosed .object es' s')
    (heq : s ++ t = s' ++ t') : ms = ms' := by
  cases hs with
  | empty hu =>
    cases hms
    cases hs' with
    | empty => cases hms'; rfl
    | entries hu' ht' =>
      cases hms' with
      | cons hm' _ =>
        simp only [List.append_assoc, List.cons_append] at heq
        cases hm'
        cases blank_append_inj hu hu' (begins_cons rfl _) (begins_cons rfl _) (List.cons.inj heq).2
  | entries hu ht =>
    cases hms with
    | cons hm hms =>
      cases hs' with
      | empty hu' =>
        simp only [List.append_assoc, List.cons_append] at heq
        cases hm
        cases blank_append_inj hu hu' (begins_cons rfl _) (begins_cons rfl _) (List.cons.inj heq).2
      | entries hu' ht' =>
        cases hms' with
        | cons hm' hms' =>
          rw [List.forall_mem_cons] at hv hv'
          simp only [List.append_assoc, List.cons_append] at heq
          have hmember := blank_append_inj hu hu' (hm.begins _) (hm'.begins _)
            (List.cons.inj heq).2
          obtain ⟨rfl, hrest⟩ := hm.append_inj hm' hv.1 hv'.1 (ht.endsNumber t)
            (ht'.endsNumber t') hmember
          rw [ht.members_unique hms hms' hv.2 hv'.2 ht' hrest]

theorem Enclosed.begins (h : Enclosed .object es s) (t : List Char) :
    Begins (fun x => Cursor.isSpace x = false) (s ++ t) := by
  obtain ⟨s, rfl⟩ := h.exists_cons
  exact begins_cons rfl _

theorem Padded.exists_append {is : List Char → Prop} (h : Padded is s) :
    ∃ u o w, Blank u ∧ is o ∧ Blank w ∧ s = u ++ (o ++ w) := by
  obtain ⟨hu, ho, hw⟩ := h
  exact ⟨_, _, _, hu, ho, hw, rfl⟩

/-- A text has its members in one way only. -/
theorem IsObjectOf.unique (h : IsObjectOf ms s) (h' : IsObjectOf ms' s) : ms = ms' := by
  obtain ⟨hms, hv, hs⟩ := h
  obtain ⟨hms', hv', hs'⟩ := h'
  obtain ⟨hu, ho, hw⟩ := hs
  obtain ⟨u', o', w', hu', ho', hw', hx⟩ := hs'.exists_append
  have heq := blank_append_inj hu hu' (ho.begins _) (ho'.begins _) hx
  exact ho.members_unique hms hms' hv hv' ho' heq

/-! ## Edits -/

/-- A value that stands for no value. -/
def nullValue : List Char := ['n', 'u', 'l', 'l']

/-- A change of members that is none of what they report: their order, a member of an unknown
name, a `null` for a field that may be missing, and the way in which a value is written. -/
inductive Edit : List Member → List Member → Prop
  | permute {ms ms' : List Member} (h : ms.Perm ms') : Edit ms ms'
  | insert {ms ms' : List Member} {m : Member} (hname : ∀ f : Field, m.name ≠ f.name.toList)
    (hv : Value m.value) : Edit (ms ++ ms') (ms ++ m :: ms')
  | dropNull {ms ms' : List Member} {f : Field} (hf : f ≠ .data) :
    Edit (ms ++ ⟨f.name.toList, nullValue⟩ :: ms') (ms ++ ms')
  | addNull {ms ms' : List Member} {f : Field} (hf : f ≠ .data)
    (hname : ∀ m ∈ ms ++ ms', m.name ≠ f.name.toList) :
    Edit (ms ++ ms') (ms ++ ⟨f.name.toList, nullValue⟩ :: ms')
  | rewrite {ms ms' : List Member} {n v v' : List Char} (hv : Rewritten .value v v') :
    Edit (ms ++ ⟨n, v⟩ :: ms') (ms ++ ⟨n, v'⟩ :: ms')

/-- What a response holds in a field, as values that members may have. -/
def Meets (r : Response) (vs : List (List Char)) : Field → Prop
  | .data => ∃ v, vs = [v] ∧ IsString r.data v
  | .title => Held IsString r.title vs
  | .color => Held IsString r.color vs
  | .code => Held IsCode r.code vs
  | .status => Held IsString r.status vs

theorem writes_iff_meets : Writes ms r ↔ (∀ f, r.Meets (valuesOf ms f) f) ∧
    ∀ m ∈ ms, Field.ofName? m.name = none → Value m.value := by
  constructor
  · rintro ⟨hdata, htitle, hcolor, hcode, hstatus, hothers⟩
    refine ⟨fun f => ?_, hothers⟩
    cases f with
    | data => exact hdata
    | title => exact htitle
    | color => exact hcolor
    | code => exact hcode
    | status => exact hstatus
  · rintro ⟨h, hothers⟩
    exact ⟨h .data, h .title, h .color, h .code, h .status, hothers⟩

theorem Held.length_le {α : Type} {is : α → List Char → Prop} {x : Option α}
    {vs : List (List Char)} (h : Held is x vs) : vs.length ≤ 1 := by
  cases h <;> simp

/-- No field has two values. -/
theorem Meets.length_le {vs : List (List Char)} (h : r.Meets vs f) : vs.length ≤ 1 := by
  cases f with
  | data =>
    obtain ⟨v, rfl, _⟩ := h
    exact Nat.le_refl 1
  | title => exact Held.length_le h
  | color => exact Held.length_le h
  | code => exact Held.length_le h
  | status => exact Held.length_le h

theorem Meets.perm {vs vs' : List (List Char)} (h : r.Meets vs f) (hvs : vs.Perm vs') :
    r.Meets vs' f := by
  suffices vs = vs' from this ▸ h
  match vs, h.length_le with
  | [], _ => exact (List.nil_perm.mp hvs).symm
  | [v], _ => exact (List.singleton_perm.mp hvs)

theorem Held.eq_none {α : Type} {is : α → List Char → Prop}
    (his : ∀ x v, is x v → Begins (fun y => Cursor.isSpace y = false ∧ y ≠ 'n') v) {x : Option α}
    (h : Held is x [nullValue]) : x = none := by
  generalize hx : [nullValue] = vs at h
  cases h with
  | absent => rfl
  | null => rfl
  | value hv =>
    cases hx
    obtain ⟨y, t, hy, hne⟩ := his _ _ hv
    cases hy
    exact absurd rfl hne.2

/-- For a field that may be missing, a `null` says as much as nothing. -/
theorem meets_null_iff (hf : f ≠ .data) : r.Meets [nullValue] f ↔ r.Meets [] f := by
  have held {α : Type} {is : α → List Char → Prop}
      (his : ∀ x v, is x v → Begins (fun y => Cursor.isSpace y = false ∧ y ≠ 'n') v)
      {x : Option α} : Held is x [nullValue] ↔ Held is x [] := by
    constructor
    · intro h
      rw [h.eq_none his]
      exact .absent
    · intro h
      cases h
      exact .null
  have string : ∀ x v, IsString x v → _ := fun _ _ h => recognizes_readData.begins h
  have code : ∀ x v, IsCode x v → _ := fun _ _ h => recognizes_readCode.begins h
  cases f with
  | data => exact absurd rfl hf
  | title => exact held string
  | color => exact held string
  | code => exact held code
  | status => exact held string

theorem Held.rewritten {α : Type} {is : α → List Char → Prop} {x : Option α}
    (his : ∀ {x v v'}, is x v → Rewritten .value v v' → is x v') (h : Held is x [v])
    (hv : Rewritten .value v v') : Held is x [v'] := by
  generalize hx : [v] = vs at h
  cases h with
  | absent => cases hx
  | null =>
    cases hx
    obtain rfl := hv.eq_of_begins ⟨'n', _, rfl, by decide⟩
    exact .null
  | value h =>
    cases hx
    exact .value (his h hv)

/-- A value that is written in another way reports the same. -/
theorem Meets.rewritten (h : r.Meets [v] f) (hv : Rewritten .value v v') : r.Meets [v'] f := by
  cases f with
  | data =>
    obtain ⟨_, hx, hdata⟩ := h
    cases hx
    exact ⟨v', rfl, hdata.rewritten hv⟩
  | title => exact Held.rewritten IsText.rewritten h hv
  | color => exact Held.rewritten IsText.rewritten h hv
  | code => exact Held.rewritten IsInteger.rewritten h hv
  | status => exact Held.rewritten IsText.rewritten h hv

theorem valuesOf_append (ms ms' : List Member) (f : Field) :
    valuesOf (ms ++ ms') f = valuesOf ms f ++ valuesOf ms' f := by
  unfold valuesOf
  rw [List.filter_append, List.map_append]

theorem valuesOf_cons_of_ne (h : m.name ≠ f.name.toList) (ms : List Member) :
    valuesOf (m :: ms) f = valuesOf ms f := by
  unfold valuesOf
  rw [List.filter_cons_of_neg (by simpa using h)]

theorem valuesOf_cons_self (v : List Char) (ms : List Member) (f : Field) :
    valuesOf (⟨f.name.toList, v⟩ :: ms) f = v :: valuesOf ms f := by
  unfold valuesOf
  rw [List.filter_cons_of_pos (by simp)]
  rfl

theorem valuesOf_eq_nil (h : ∀ m ∈ ms, m.name ≠ f.name.toList) : valuesOf ms f = [] := by
  unfold valuesOf
  rw [List.filter_eq_nil_iff.mpr (by simpa using h), List.map_nil]

/-- The value of a field is its only one, so there is none before it and none behind it. -/
theorem Meets.eq_nil_of_cons {vs vs' : List (List Char)} (h : r.Meets (vs ++ v :: vs') f) :
    vs = [] ∧ vs' = [] := by
  have hlen := h.length_le
  simp only [List.length_append, List.length_cons] at hlen
  exact ⟨List.length_eq_zero_iff.mp (by omega), List.length_eq_zero_iff.mp (by omega)⟩

theorem Edit.meets (hedit : Edit ms ms') (h : ∀ f, r.Meets (valuesOf ms f) f) (f : Field) :
    r.Meets (valuesOf ms' f) f := by
  have hf := h f
  cases hedit with
  | permute hperm => exact hf.perm ((hperm.filter _).map _)
  | insert hname _ =>
    rw [valuesOf_append] at hf ⊢
    rwa [valuesOf_cons_of_ne (hname f)]
  | @dropNull _ _ g hg =>
    rw [valuesOf_append] at hf ⊢
    by_cases hfg : g = f
    · subst hfg
      rw [valuesOf_cons_self] at hf
      obtain ⟨hl, hr⟩ := hf.eq_nil_of_cons
      rw [hl, hr] at hf ⊢
      exact (meets_null_iff hg).mp hf
    · have hne : g.name.toList ≠ f.name.toList := fun he => hfg (name_injective he)
      rwa [valuesOf_cons_of_ne hne] at hf
  | @addNull l₁ l₂ g hg hname =>
    rw [valuesOf_append] at hf ⊢
    by_cases hfg : g = f
    · subst hfg
      rw [List.forall_mem_append] at hname
      have hl : valuesOf l₁ g = [] := valuesOf_eq_nil hname.1
      have hr : valuesOf l₂ g = [] := valuesOf_eq_nil hname.2
      rw [valuesOf_cons_self, hl, hr]
      rw [hl, hr] at hf
      exact (meets_null_iff hg).mpr hf
    · have hne : g.name.toList ≠ f.name.toList := fun he => hfg (name_injective he)
      rwa [valuesOf_cons_of_ne hne]
  | @rewrite _ _ n v v' hv =>
    rw [valuesOf_append] at hf ⊢
    by_cases hn : n = f.name.toList
    · subst hn
      rw [valuesOf_cons_self] at hf ⊢
      obtain ⟨hl, hr⟩ := hf.eq_nil_of_cons
      rw [hl, hr] at hf ⊢
      exact hf.rewritten hv
    · rwa [valuesOf_cons_of_ne hn] at hf ⊢

/-- Values stay well-formed. -/
theorem Edit.value (hedit : Edit ms ms') (h : ∀ m ∈ ms, Value m.value) :
    ∀ m ∈ ms', Value m.value := by
  cases hedit with
  | permute hperm => exact fun m hm => h m (hperm.mem_iff.mpr hm)
  | insert _ hv => simp_all [or_imp, forall_and]
  | dropNull => simp_all [or_imp, forall_and]
  | addNull =>
    have hnull : Value nullValue := .scalar .null
    simp_all [or_imp, forall_and]
  | rewrite hv =>
    have hv' := hv.wellFormed.2
    simp_all [or_imp, forall_and]

/-- An edit keeps what members report. -/
theorem Edit.writes (hedit : Edit ms ms') (h : Writes ms r) : Writes ms' r :=
  writes_iff_meets.mpr ⟨hedit.meets (writes_iff_meets.mp h).1,
    fun m hm _ => hedit.value h.value m hm⟩

theorem writes_of_edits (hedits : Relation.ReflTransGen Edit ms ms') (h : Writes ms r) :
    Writes ms' r := by
  induction hedits with
  | refl => exact h
  | tail _ hedit ih => exact hedit.writes ih

/-! ## Reading -/

theorem IsObjectOf.padded (h : IsObjectOf ms s) (hr : Writes ms r) : Padded (IsObject r) s := by
  obtain ⟨hms, _, hs⟩ := h
  exact hs.mono fun _ ho => .mk hms ho hr

theorem exists_isObjectOf (h : Padded (IsObject r) s) : ∃ ms, IsObjectOf ms s ∧ Writes ms r := by
  obtain ⟨hu, ⟨hms, ho, hr⟩, hw⟩ := h
  exact ⟨_, ⟨hms, hr.value, hu, ho, hw⟩, hr⟩

/-- A list is no object. -/
theorem not_padded_isList (hu : Blank u) : ¬ Padded (IsList r) (u ++ '\x7b' :: t) := by
  intro h
  obtain ⟨u', o, w, hu', ho, _, heq⟩ := h.exists_append
  obtain ⟨o, rfl⟩ := ho.exists_cons
  cases blank_append_inj hu hu' (begins_cons rfl _) (begins_cons rfl _) heq

theorem IsObjectOf.exists_cons (h : IsObjectOf ms s) :
    ∃ u t, Blank u ∧ s = u ++ '\x7b' :: t := by
  obtain ⟨_, _, hu, ho, _⟩ := h
  obtain ⟨o, rfl⟩ := ho.exists_cons
  exact ⟨_, _, hu, rfl⟩

/-- An object is read exactly if its members write a response. -/
theorem IsObjectOf.decode_eq_ok_iff {s : String} (h : IsObjectOf ms s.toList) :
    decode s = .ok r ↔ Writes ms r := by
  rw [Response.decode_eq_ok_iff]
  constructor
  · rintro (ho | hl)
    · obtain ⟨ms', hms', hr⟩ := exists_isObjectOf ho
      exact h.unique hms' ▸ hr
    · obtain ⟨u, t, hu, hs⟩ := h.exists_cons
      exact absurd (hs ▸ hl) (not_padded_isList hu)
  · exact fun hr => .inl (h.padded hr)

/-- **What reading ignores.** A text that is read and begins as an object has its members in one
way only. Any text with the same members up to edits is read as the same response, wherever its
blanks are and however its names are spelled: the order of members does not matter, nor do
members of unknown names with any values, the spelling of texts, or a `null` instead of nothing. -/
theorem decode_of_edits {s : String} {u t : List Char} (h : decode s = .ok r) (hu : Blank u)
    (hs : s.toList = u ++ '\x7b' :: t) :
    ∃ ms, (∀ ms', IsObjectOf ms' s.toList ↔ ms' = ms) ∧
      ∀ ms', Relation.ReflTransGen Edit ms ms' →
        ∀ s' : String, IsObjectOf ms' s'.toList → decode s' = .ok r := by
  obtain ho | hl := Response.decode_eq_ok_iff.mp h
  · obtain ⟨ms, hms, hr⟩ := exists_isObjectOf ho
    refine ⟨ms, fun ms' => ⟨fun h => h.unique hms, fun h => h ▸ hms⟩, fun ms' hedits s' hs' => ?_⟩
    exact hs'.decode_eq_ok_iff.mpr (writes_of_edits hedits hr)
  · exact absurd (hs ▸ hl) (not_padded_isList hu)

/-- Members are those of an object that is written without blanks. -/
theorem isObjectOf_text (hv : ∀ m ∈ ms, Value m.value) :
    IsObjectOf ms ('\x7b' :: [','].intercalate (ms.map Member.text) ++ ['\x7d']) := by
  refine ⟨(List.forall₂_map_right_iff.mpr (List.forall₂_same.mpr fun m _ => isMember_text m)), hv,
    ?_⟩
  have h := Padded.mk (u := []) (w := []) nofun (enclosed_intercalate .object (ms.map Member.text))
    nofun
  rwa [List.nil_append, List.append_nil] at h

/-- A report and a `null`, as they are usually written. -/
def usualMembers : List Member :=
  [⟨"data".toList, "\"x\"".toList⟩, ⟨"title".toList, nullValue⟩]

/-- The report in other signs, behind a member of another name. -/
def otherMembers : List Member :=
  [⟨"n".toList, "[ ]".toList⟩, ⟨"data".toList, "\"\\u0078\"".toList⟩]

theorem edits_otherMembers : Relation.ReflTransGen Edit usualMembers otherMembers := by
  have hx : Respelled ['x'] "\\u0078".toList :=
    Spelling.respelled (spelling_escape ['x']) (.cons (v := "\\u0078".toList) (.number rfl) .nil)
  have hlist : Value "[ ]".toList := .empty .list (u := [' ']) (by simp [Blank, Cursor.isSpace])
  have hdrop : Edit usualMembers [⟨"data".toList, "\"x\"".toList⟩] :=
    @Edit.dropNull [⟨"data".toList, "\"x\"".toList⟩] [] .title (by decide)
  have hrewrite : Edit [⟨"data".toList, "\"x\"".toList⟩]
      [⟨"data".toList, "\"\\u0078\"".toList⟩] := @Edit.rewrite [] _ _ _ _ (.text hx)
  have hinsert : Edit [⟨"data".toList, "\"\\u0078\"".toList⟩] otherMembers :=
    @Edit.insert [] _ _ (fun f => by cases f <;> decide) hlist
  exact .tail (.tail (.single hdrop) hrewrite) hinsert

/-- A text as it is usually written, and as it may be written too. -/
theorem decode_restated :
    decode "\x7b\"data\":\"x\",\"title\":null\x7d" = .ok { data := "x" } ∧
      decode "\n\x7b\"n\":[ ],\"d\\u0061ta\": \"\\u0078\"\x7d" = .ok { data := "x" } := by
  have hx : IsString "x" "\"x\"".toList := isText_writeText ['x']
  have husual : IsObjectOf usualMembers "\x7b\"data\":\"x\",\"title\":null\x7d".toList := by
    refine isObjectOf_text fun m hm => ?_
    obtain rfl | rfl : m = _ ∨ m = _ := by simpa [usualMembers] using hm
    · exact hx.value
    · exact .scalar .null
  have hwrites : Writes usualMembers { data := "x" } :=
    ⟨⟨_, rfl, hx⟩, .null, .absent, .absent, .absent, fun m hm hnone => by
      obtain rfl | rfl : m = _ ∨ m = _ := by simpa [usualMembers] using hm
      all_goals cases hnone⟩
  have hread := husual.decode_eq_ok_iff.mpr hwrites
  refine ⟨hread, ?_⟩
  obtain ⟨ms, hms, hedits⟩ := decode_of_edits hread (u := []) nofun rfl
  obtain rfl := (hms _).mp husual
  have hname : Spelling "data".toList "d\\u0061ta".toList :=
    .cons (v := ['d']) (.plain (by decide) (by decide) (by decide))
      (.cons (v := "\\u0061".toList) (.number rfl) (spelling_escape "ta".toList))
  have hfirst : IsMember ⟨"n".toList, "[ ]".toList⟩ "\"n\":[ ]".toList := isMember_text _
  have hsecond : IsMember ⟨"data".toList, "\"\\u0078\"".toList⟩
      "\"d\\u0061ta\": \"\\u0078\"".toList :=
    .mk (n := "d\\u0061ta".toList) (u := []) (w := [' ']) hname nofun
      (by simp [Blank, Cursor.isSpace])
  have hs : Enclosed .object ["\"n\":[ ]".toList, "\"d\\u0061ta\": \"\\u0078\"".toList]
      "\x7b\"n\":[ ],\"d\\u0061ta\": \"\\u0078\"\x7d".toList :=
    .entries (u := []) nofun (.more (u := []) (w := []) nofun nofun (.close (u := []) nofun))
  have hvalue := writes_of_edits edits_otherMembers hwrites |>.value
  exact hedits _ edits_otherMembers _
    ⟨.cons hfirst (.cons hsecond .nil), hvalue,
      .mk (u := ['\n']) (w := []) (by simp [Blank, Cursor.isSpace]) hs nofun⟩

end TaintClient.Response

/-
  The bodies that write a report. One form is a JSON object: the report once, each of the other
  known members once at most, with a `null` or a value of its kind, and any further members. The
  other one is a list of up to five values, those of the known members in the order of the fields.

  A reader takes one member after the other into a draft (`Draft.Takes`). What it holds in the end
  is told from the members alone, whatever their order (`Draft.takesAll_iff`).
-/
import Mathlib.Data.List.Forall2
import Mathlib.Data.List.Induction
import TaintClient.Proofs.Json.Kind
import TaintClient.Response.Decode

namespace TaintClient.Response

open Json

variable {α : Type} {d d' : Draft} {f g : Field} {ms : List Member} {r : Response}

/-! ## Brackets with their entries -/

/-- Entries that each stand behind a comma, and the closing sign; blanks between all of them. -/
inductive Followed (b : Bracket) : List (List Char) → List Char → Prop
  | close {u : List Char} (hu : Blank u) : Followed b [] (u ++ [b.closing])
  | more {e u w t : List Char} {es : List (List Char)} (hu : Blank u) (hw : Blank w)
    (ht : Followed b es t) : Followed b (e :: es) (u ++ ',' :: (w ++ (e ++ t)))

/-- A bracket and its entries. -/
inductive Enclosed (b : Bracket) : List (List Char) → List Char → Prop
  | empty {u : List Char} (hu : Blank u) : Enclosed b [] (b.opening :: (u ++ [b.closing]))
  | entries {e u t : List Char} {es : List (List Char)} (hu : Blank u) (ht : Followed b es t) :
    Enclosed b (e :: es) (b.opening :: (u ++ (e ++ t)))

/-- A member of an object: its name, and its value as it is written. -/
structure Member where
  name : List Char
  value : List Char

/-- How a member is written: its name in any spelling, a colon, and its value. -/
inductive IsMember (m : Member) : List Char → Prop
  | mk {n u w : List Char} (hn : Spelling m.name n) (hu : Blank u) (hw : Blank w) :
    IsMember m ('"' :: (n ++ '"' :: (u ++ ':' :: (w ++ m.value))))

/-! ## What members write -/

/-- The values of the members with the name of a field. -/
def valuesOf (ms : List Member) (f : Field) : List (List Char) :=
  (ms.filter fun m => m.name = f.name.toList).map (·.value)

/-- What a field holds that may be missing: nothing if it has no value or a `null`, else its only
value. -/
inductive Held (is : α → List Char → Prop) : Option α → List (List Char) → Prop
  | absent : Held is none []
  | null : Held is none [['n', 'u', 'l', 'l']]
  | value {x : α} {v : List Char} (hv : is x v) : Held is (some x) [v]

/-- How a text is written. -/
def IsString (s : String) : List Char → Prop := IsText s.toList

/-- How a code is written. -/
def IsCode (n : Int64) : List Char → Prop := IsInteger n.toInt

/-- Members that write a response: the report once, the other known members once at most, and any
well-formed values of unknown ones. -/
structure Writes (ms : List Member) (r : Response) : Prop where
  data : ∃ v, valuesOf ms .data = [v] ∧ IsString r.data v
  title : Held IsString r.title (valuesOf ms .title)
  color : Held IsString r.color (valuesOf ms .color)
  code : Held IsCode r.code (valuesOf ms .code)
  status : Held IsString r.status (valuesOf ms .status)
  others : ∀ m ∈ ms, Field.ofName? m.name = none → Value m.value

/-- A JSON object whose members write a response. -/
inductive IsObject (r : Response) : List Char → Prop
  | mk {ms : List Member} {es : List (List Char)} {o : List Char}
    (hm : List.Forall₂ IsMember ms es) (ho : Enclosed .object es o) (hr : Writes ms r) :
    IsObject r o

/-- Values as members, named in the order of the fields. -/
def inOrder (fs : List Field) (vs : List (List Char)) : List Member :=
  List.zipWith (fun f v => ⟨f.name.toList, v⟩) fs vs

/-- A JSON list whose values write a response in the order of the fields. -/
inductive IsList (r : Response) : List Char → Prop
  | mk {vs : List (List Char)} {o : List Char} (ho : Enclosed .list vs o)
    (hlen : vs.length ≤ Field.all.length) (hr : Writes (inOrder Field.all vs) r) : IsList r o

/-- Blanks around a text. -/
inductive Padded (is : List Char → Prop) : List Char → Prop
  | mk {u o w : List Char} (hu : Blank u) (ho : is o) (hw : Blank w) : Padded is (u ++ (o ++ w))

/-! ## Drafts -/

/-- A value that is filled into a field of a draft. -/
inductive Draft.Fill (d : Draft) (v : List Char) : Field → Draft → Prop
  | data {s : String} (hv : IsString s v) : d.Fill v .data { d with data := some s }
  | title {o : Option String} (hv : Nullable IsString o v) :
    d.Fill v .title { d with title := some o }
  | color {o : Option String} (hv : Nullable IsString o v) :
    d.Fill v .color { d with color := some o }
  | code {o : Option Int64} (hv : Nullable IsCode o v) : d.Fill v .code { d with code := some o }
  | status {o : Option String} (hv : Nullable IsString o v) :
    d.Fill v .status { d with status := some o }

/-- A member that a draft takes: an unknown one, or one that it does not have yet. -/
inductive Draft.Takes (d : Draft) (m : Member) : Draft → Prop
  | unknown (hm : Field.ofName? m.name = none) (hv : Value m.value) : d.Takes m d
  | known {f : Field} {d' : Draft} (hm : Field.ofName? m.name = some f) (hd : d.has f = false)
    (hv : d.Fill m.value f d') : d.Takes m d'

/-- Members that a draft takes, one after the other. -/
inductive Draft.TakesAll : Draft → List Member → Draft → Prop
  | nil {d : Draft} : TakesAll d [] d
  | cons {d d' d'' : Draft} {m : Member} {ms : List Member} (hm : d.Takes m d')
    (hms : TakesAll d' ms d'') : TakesAll d (m :: ms) d''

/-- What a field of a draft holds for the values that were taken for it: the only one, if any. -/
inductive Slot (is : α → List Char → Prop) : Option α → List (List Char) → Prop
  | empty : Slot is none []
  | full {x : α} {v : List Char} (hv : is x v) : Slot is (some x) [v]

/-- Whether a field of a draft holds what was taken for it. -/
def Draft.Fits (d : Draft) (vs : List (List Char)) : Field → Prop
  | .data => Slot IsString d.data vs
  | .title => Slot (Nullable IsString) d.title vs
  | .color => Slot (Nullable IsString) d.color vs
  | .code => Slot (Nullable IsCode) d.code vs
  | .status => Slot (Nullable IsString) d.status vs

/-- A draft that holds what its members write. -/
structure Draft.Of (ms : List Member) (d : Draft) : Prop where
  fits : ∀ f, d.Fits (valuesOf ms f) f
  others : ∀ m ∈ ms, Field.ofName? m.name = none → Value m.value

theorem ofName?_eq_some_iff {s : List Char} :
    Field.ofName? s = some f ↔ s = f.name.toList := by
  constructor
  · intro h
    have := List.find?_some h
    simpa using (of_decide_eq_true this).symm
  · rintro rfl
    cases f <;> decide

/-- No two fields have one name. -/
theorem name_injective (h : f.name.toList = g.name.toList) : f = g := by
  have hg := ofName?_eq_some_iff.mpr h
  rw [ofName?_eq_some_iff.mpr rfl] at hg
  exact Option.some_inj.mp hg

theorem valuesOf_append_singleton (ms : List Member) (m : Member) (f : Field) :
    valuesOf (ms ++ [m]) f =
      valuesOf ms f ++ if Field.ofName? m.name = some f then [m.value] else [] := by
  unfold valuesOf
  rw [List.filter_append, List.map_append]
  by_cases h : m.name = f.name.toList
  · rw [if_pos (ofName?_eq_some_iff.mpr h), List.filter_cons_of_pos (by simpa using h)]
    rfl
  · rw [if_neg (mt ofName?_eq_some_iff.mp h), List.filter_cons_of_neg (by simpa using h)]
    rfl

/-! ### Filling a field -/

namespace Draft

theorem Fill.fits_self {v : List Char} (h : d.Fill v f d') : d'.Fits [v] f := by
  cases h with
  | data hv => exact .full hv
  | title hv => exact .full hv
  | color hv => exact .full hv
  | code hv => exact .full hv
  | status hv => exact .full hv

theorem Fill.fits_of_ne {v : List Char} (h : d.Fill v f d') (hg : g ≠ f)
    (vs : List (List Char)) : d'.Fits vs g ↔ d.Fits vs g := by
  cases h <;> cases g <;> first | exact Iff.rfl | exact absurd rfl hg

theorem Fill.has_of_ne {v : List Char} (h : d.Fill v f d') (hg : g ≠ f) : d'.has g = d.has g := by
  cases h <;> cases g <;> first | rfl | exact absurd rfl hg

/-- For a field that a draft does not have, nothing was taken. -/
theorem Fits.eq_nil {vs : List (List Char)} (h : d.Fits vs f) (hd : d.has f = false) :
    vs = [] := by
  cases f <;> simp only [has, Option.isSome_eq_false_iff, Option.isNone_iff_eq_none] at hd <;>
    (simp only [Fits, hd] at h; cases h; rfl)

/-- The last value that was taken for a field is the only one, and the draft was filled with it. -/
theorem Fits.exists_fill {vs : List (List Char)} {v : List Char} (h : d.Fits (vs ++ [v]) f) :
    vs = [] ∧ ∃ d₀ : Draft, d₀.Fill v f d ∧ d₀.has f = false ∧ d₀.Fits [] f := by
  obtain ⟨data, title, color, code, status⟩ := d
  have single {β : Type} {is : β → List Char → Prop} {o : Option β} (h : Slot is o (vs ++ [v])) :
      vs = [] ∧ ∃ x, o = some x ∧ is x v := by
    generalize hw : vs ++ [v] = ws at h
    cases h with
    | empty => simp at hw
    | full hv =>
      obtain ⟨rfl, hvv⟩ := List.append_eq_singleton_iff.mp hw |>.resolve_right (by simp)
      cases hvv
      exact ⟨rfl, _, rfl, hv⟩
  cases f with
  | data =>
    obtain ⟨rfl, x, rfl, hv⟩ := single h
    exact ⟨rfl, ⟨none, title, color, code, status⟩, .data hv, rfl, .empty⟩
  | title =>
    obtain ⟨rfl, x, rfl, hv⟩ := single h
    exact ⟨rfl, ⟨data, none, color, code, status⟩, .title hv, rfl, .empty⟩
  | color =>
    obtain ⟨rfl, x, rfl, hv⟩ := single h
    exact ⟨rfl, ⟨data, title, none, code, status⟩, .color hv, rfl, .empty⟩
  | code =>
    obtain ⟨rfl, x, rfl, hv⟩ := single h
    exact ⟨rfl, ⟨data, title, color, none, status⟩, .code hv, rfl, .empty⟩
  | status =>
    obtain ⟨rfl, x, rfl, hv⟩ := single h
    exact ⟨rfl, ⟨data, title, color, code, none⟩, .status hv, rfl, .empty⟩

/-! ### Taking members -/

theorem Of.takes (h : d.Of ms) {m : Member} (hm : d.Takes m d') : d'.Of (ms ++ [m]) := by
  constructor
  · intro g
    rw [valuesOf_append_singleton]
    cases hm with
    | unknown hm _ =>
      rw [hm, if_neg nofun, List.append_nil]
      exact h.fits g
    | @known f _ hm hd hv =>
      rw [hm]
      by_cases hg : g = f
      · subst hg
        rw [if_pos rfl, (h.fits g).eq_nil hd]
        exact hv.fits_self
      · rw [if_neg (fun he => hg (Option.some_inj.mp he).symm), List.append_nil]
        exact (hv.fits_of_ne hg _).mpr (h.fits g)
  · intro n hn hnone
    obtain hn | hn := List.mem_append.mp hn
    · exact h.others n hn hnone
    · obtain rfl := List.mem_singleton.mp hn
      cases hm with
      | unknown _ hv => exact hv
      | known hm _ _ => simp [hm] at hnone

theorem Of.takesAll (h : d.Of ms) {ms' : List Member} (hms : d.TakesAll ms' d') :
    d'.Of (ms ++ ms') := by
  induction hms generalizing ms with
  | nil => rwa [List.append_nil]
  | cons hm _ ih =>
    rw [List.append_cons]
    exact ih (h.takes hm)

theorem TakesAll.concat (h : d.TakesAll ms d') {m : Member} {d'' : Draft}
    (hm : d'.Takes m d'') : d.TakesAll (ms ++ [m]) d'' := by
  induction h with
  | nil => exact .cons hm .nil
  | cons hn _ ih => exact .cons hn (ih hm)

theorem of_nil_iff : d.Of [] ↔ d = {} := by
  constructor
  · intro h
    obtain ⟨data, title, color, code, status⟩ := d
    have empty {β : Type} {is : β → List Char → Prop} {o : Option β} (h : Slot is o []) :
        o = none := by
      cases h
      rfl
    obtain rfl := empty (h.fits .data)
    obtain rfl := empty (h.fits .title)
    obtain rfl := empty (h.fits .color)
    obtain rfl := empty (h.fits .code)
    obtain rfl := empty (h.fits .status)
    rfl
  · rintro rfl
    exact ⟨fun f => by cases f <;> exact .empty, nofun⟩

/-- What a draft holds that took members is told from the members, whatever their order. -/
theorem takesAll_iff : TakesAll {} ms d ↔ d.Of ms := by
  constructor
  · intro h
    exact (of_nil_iff.mpr rfl).takesAll h
  · intro h
    induction ms using List.reverseRecOn generalizing d with
    | nil =>
      rw [of_nil_iff.mp h]
      exact .nil
    | append_singleton ms m ih =>
      have others : ∀ n ∈ ms, Field.ofName? n.name = none → Value n.value :=
        fun n hn => h.others n (List.mem_append_left _ hn)
      have fits (g : Field) := valuesOf_append_singleton ms m g ▸ h.fits g
      cases hm : Field.ofName? m.name with
      | none =>
        have hv : Value m.value := h.others m (List.mem_append_right _ List.mem_cons_self) hm
        refine (ih ⟨fun g => ?_, others⟩).concat (.unknown hm hv)
        simpa only [hm, reduceCtorEq, if_false, List.append_nil] using fits g
      | some f =>
        rw [hm] at fits
        have hself := fits f
        rw [if_pos rfl] at hself
        obtain ⟨hnil, d₀, hfill, hd, hempty⟩ := hself.exists_fill
        refine (ih ⟨fun g => ?_, others⟩).concat (.known hm hd hfill)
        by_cases hg : g = f
        · subst hg
          rwa [hnil]
        · have hother := fits g
          rw [if_neg (fun he => hg (Option.some_inj.mp he).symm), List.append_nil] at hother
          exact (hfill.fits_of_ne hg _).mp hother

end Draft

/-! ## Drafts and responses -/

theorem held_iff {is : α → List Char → Prop} {o : Option α} {vs : List (List Char)} :
    Held is o vs ↔ ∃ p, Slot (Nullable is) p vs ∧ p.join = o := by
  constructor
  · intro h
    cases h with
    | absent => exact ⟨none, .empty, rfl⟩
    | null => exact ⟨some none, .full .null, rfl⟩
    | value hv => exact ⟨some (some _), .full (.value hv), rfl⟩
  · rintro ⟨p, hp, rfl⟩
    cases hp with
    | empty => exact .absent
    | full hv =>
      cases hv with
      | null => exact .null
      | value hv => exact .value hv

/-- Members write a response if the draft that takes them is one of that response. -/
theorem writes_iff : Writes ms r ↔ ∃ d, Draft.TakesAll {} ms d ∧ d.response? = some r := by
  constructor
  · intro h
    obtain ⟨v, hvalues, hdata⟩ := h.data
    obtain ⟨title, htitle, ht⟩ := held_iff.mp h.title
    obtain ⟨color, hcolor, hc⟩ := held_iff.mp h.color
    obtain ⟨code, hcode, hn⟩ := held_iff.mp h.code
    obtain ⟨status, hstatus, hs⟩ := held_iff.mp h.status
    refine ⟨⟨some r.data, title, color, code, status⟩, Draft.takesAll_iff.mpr ⟨?_, h.others⟩, ?_⟩
    · intro f
      cases f with
      | data => exact hvalues ▸ .full hdata
      | title => exact htitle
      | color => exact hcolor
      | code => exact hcode
      | status => exact hstatus
    · simp only [Draft.response?, Option.map_some, ht, hc, hn, hs]
  · rintro ⟨d, htakes, hr⟩
    have h := Draft.takesAll_iff.mp htakes
    obtain ⟨data, hd, rfl⟩ := Option.map_eq_some_iff.mp hr
    have hdata : Slot IsString d.data (valuesOf ms .data) := h.fits .data
    rw [hd] at hdata
    refine ⟨?_, held_iff.mpr ⟨_, h.fits .title, rfl⟩, held_iff.mpr ⟨_, h.fits .color, rfl⟩,
      held_iff.mpr ⟨_, h.fits .code, rfl⟩, held_iff.mpr ⟨_, h.fits .status, rfl⟩, h.others⟩
    generalize valuesOf ms .data = vs at hdata
    cases hdata with
    | full hv => exact ⟨_, rfl, hv⟩

end TaintClient.Response

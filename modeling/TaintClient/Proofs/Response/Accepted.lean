/-
  Which bodies are read, and as which response. The reader of members and the reader of values in
  order are each shown both ways: what they read is a bracket of the form that `Body` describes,
  and every bracket of that form is read. A value has to end where it does, which the comma or the
  closing sign behind it sees to.
-/
import TaintClient.Proofs.Json.Skipping
import TaintClient.Proofs.Response.Body

namespace TaintClient.Response

open Json

variable {c e : Cursor} {d d' : Draft} {f : Field} {m : Member} {ms : List Member}
  {es vs : List (List Char)} {r : Response} {s t u v w : List Char}

/-! ## Values of the fields -/

theorem recognizes_readData : Recognizes readData IsString where
  sound {c s d} h := by
    obtain ⟨⟨s', e⟩, hread, h⟩ := bind_eq_ok.mp h
    cases h
    obtain ⟨u, v, hu, hv, hrest⟩ := (recognizes_readString _).sound hread
    exact ⟨u, v, hu, by rwa [IsString, String.toList_ofList], hrest⟩
  complete {s u v t} hv hu ht p := by
    obtain ⟨q, hq⟩ := (recognizes_readString "a string").complete hv hu ht p
    refine ⟨q, ?_⟩
    rw [readData, hq]
    show Except.ok (String.ofList s.toList, _) = _
    rw [String.ofList_toList]
  begins hv := (recognizes_readString "a string").begins hv

theorem recognizes_readCode : Recognizes readCode IsCode where
  sound {c n d} h := by
    obtain ⟨⟨n', e⟩, hread, h⟩ := bind_eq_ok.mp h
    cases h
    obtain ⟨u, v, hu, hv, hrest⟩ := recognizes_readInteger.sound hread
    refine ⟨u, v, hu, ?_, hrest⟩
    have hn : (Int64.ofInt n').toInt = n' := by
      cases hv with
      | natural _ _ hlt => exact Int64.toInt_ofInt_of_le (by omega) (by omega)
      | negative _ _ _ hle => exact Int64.toInt_ofInt_of_le (by omega) (by omega)
    rwa [IsCode, hn]
  complete {n u v t} hv hu ht p := by
    obtain ⟨q, hq⟩ := recognizes_readInteger.complete hv hu ht p
    refine ⟨q, ?_⟩
    rw [readCode, hq]
    show Except.ok (Int64.ofInt n.toInt, _) = _
    rw [Int64.ofInt_toInt]
  begins hv := recognizes_readInteger.begins hv

theorem sound_readField (h : readField d f c = .ok (d', e)) :
    ∃ u v, Blank u ∧ d.Fill v f d' ∧ c.rest = u ++ (v ++ e.rest) := by
  cases f with
  | data =>
    obtain ⟨⟨x, e⟩, hread, h⟩ := bind_eq_ok.mp h
    cases h
    obtain ⟨u, v, hu, hv, hrest⟩ := recognizes_readData.sound hread
    exact ⟨u, v, hu, .data hv, hrest⟩
  | title =>
    obtain ⟨⟨x, e⟩, hread, h⟩ := bind_eq_ok.mp h
    cases h
    obtain ⟨u, v, hu, hv, hrest⟩ := sound_readOptional recognizes_readData hread
    exact ⟨u, v, hu, .title hv, hrest⟩
  | color =>
    obtain ⟨⟨x, e⟩, hread, h⟩ := bind_eq_ok.mp h
    cases h
    obtain ⟨u, v, hu, hv, hrest⟩ := sound_readOptional recognizes_readData hread
    exact ⟨u, v, hu, .color hv, hrest⟩
  | code =>
    obtain ⟨⟨x, e⟩, hread, h⟩ := bind_eq_ok.mp h
    cases h
    obtain ⟨u, v, hu, hv, hrest⟩ := sound_readOptional recognizes_readCode hread
    exact ⟨u, v, hu, .code hv, hrest⟩
  | status =>
    obtain ⟨⟨x, e⟩, hread, h⟩ := bind_eq_ok.mp h
    cases h
    obtain ⟨u, v, hu, hv, hrest⟩ := sound_readOptional recognizes_readData hread
    exact ⟨u, v, hu, .status hv, hrest⟩

theorem complete_readField (hv : d.Fill v f d') (hu : Blank u) (ht : EndsNumber t) :
    Reads (readField d f) (u ++ (v ++ t)) d' t := by
  intro p
  cases hv with
  | data hv =>
    obtain ⟨q, hq⟩ := recognizes_readData.complete hv hu ht p
    exact ⟨q, by rw [readField, hq]; rfl⟩
  | title hv =>
    obtain ⟨q, hq⟩ := complete_readOptional recognizes_readData hv hu ht p
    exact ⟨q, by rw [readField, hq]; rfl⟩
  | color hv =>
    obtain ⟨q, hq⟩ := complete_readOptional recognizes_readData hv hu ht p
    exact ⟨q, by rw [readField, hq]; rfl⟩
  | code hv =>
    obtain ⟨q, hq⟩ := complete_readOptional recognizes_readCode hv hu ht p
    exact ⟨q, by rw [readField, hq]; rfl⟩
  | status hv =>
    obtain ⟨q, hq⟩ := complete_readOptional recognizes_readData hv hu ht p
    exact ⟨q, by rw [readField, hq]; rfl⟩

/-! ## Brackets -/

theorem Followed.endsNumber {b : Bracket} (h : Followed b es s) (t : List Char) :
    EndsNumber (s ++ t) := by
  cases h with
  | close hu =>
    rw [List.append_assoc, List.singleton_append]
    cases b <;> exact endsNumber_blank hu (by decide) (by decide) (by decide) (by decide) t
  | more hu _ _ =>
    rw [List.append_assoc, List.cons_append]
    exact endsNumber_blank hu (by decide) (by decide) (by decide) (by decide) _

/-- Each entry takes a comma at least. -/
theorem Followed.length_lt {b : Bracket} (h : Followed b es s) : es.length < s.length := by
  induction h with
  | close hu => simp
  | more hu hw ht ih =>
    simp only [List.length_append, List.length_cons]
    omega

/-! ## Members -/

theorem sound_readMember (h : readMember d c = .ok (d', e)) :
    ∃ m s, d.Takes m d' ∧ IsMember m ('"' :: s) ∧ c.rest = s ++ e.rest := by
  obtain ⟨⟨name, c₁⟩, hname, h⟩ := bind_eq_ok.mp h
  obtain ⟨n, hn, hrest⟩ := exists_readText hname
  dsimp only at h hrest
  split at h
  · rename_i hnone
    obtain ⟨c₂, hcolon, h⟩ := bind_eq_ok.mp h
    obtain ⟨c₃, hskip, h⟩ := bind_eq_ok.mp h
    cases h
    obtain ⟨u, hu, hrest₁⟩ := exists_expectColon hcolon
    obtain ⟨w, v, hw, hv, hrest₂⟩ := exists_skipValue hskip
    refine ⟨⟨name, v⟩, _, .unknown hnone hv, .mk hn hu hw, ?_⟩
    rw [hrest, hrest₁, hrest₂]
    simp
  · rename_i f hf
    split at h
    · cases h
    · rename_i hd
      obtain ⟨c₂, hcolon, h⟩ := bind_eq_ok.mp h
      obtain ⟨u, hu, hrest₁⟩ := exists_expectColon hcolon
      obtain ⟨w, v, hw, hv, hrest₂⟩ := sound_readField h
      refine ⟨⟨name, v⟩, _, .known hf (Bool.eq_false_iff.mpr hd) hv, .mk hn hu hw, ?_⟩
      rw [hrest, hrest₁, hrest₂]
      simp

theorem complete_readMember (hd : d.Takes m d') (hm : IsMember m ('"' :: s)) (ht : EndsNumber t) :
    Reads (readMember d) (s ++ t) d' t := by
  generalize hs : '"' :: s = s' at hm
  obtain ⟨hn, hu, hw⟩ := hm
  rename_i n u w
  cases hs
  intro p
  obtain ⟨q, hq⟩ := reads_readText hn (u ++ ':' :: (w ++ (m.value ++ t))) p
  obtain ⟨q', hcolon⟩ := passes_expectColon hu (w ++ (m.value ++ t)) q
  simp only [List.append_assoc, List.cons_append, readMember, hq, bind, Except.bind]
  cases hd with
  | unknown hnone hv =>
    obtain ⟨r, hr⟩ := passes_skipValue hv hw ht q'
    exact ⟨r, by simp only [hnone, hcolon, hr]⟩
  | known hf hd hv =>
    obtain ⟨r, hr⟩ := complete_readField hv hw ht q'
    exact ⟨r, by simp only [hf, hd, Bool.false_eq_true, if_false, hcolon, hr]⟩

/-- Behind the last member is the closing sign. -/
theorem nextName_false {first : Bool} (h : nextName first c = .ok (false, e)) :
    ∃ u, Blank u ∧ c.rest = u ++ '\x7d' :: e.next.rest := by
  obtain ⟨u, hu, hrest, _⟩ := Cursor.exists_skipSpace c
  refine ⟨u, hu, hrest.trans ?_⟩
  simp only [nextName] at h
  split at h
  · cases h
  · rename_i x xs hx
    split at h
    · rename_i hclosing
      cases h
      rw [Cursor.rest_next (congrArg List.head? hx), hclosing]
    · split at h
      · cases h
      · split at h
        · cases h
        · split_ifs at h <;> cases h

/-- The first member begins behind blanks, a further one behind a comma too. -/
theorem nextName_true {first : Bool} (h : nextName first c = .ok (true, e)) :
    ∃ u w, Blank u ∧ Blank w ∧
      c.rest = u ++ if first then '"' :: e.rest else ',' :: (w ++ '"' :: e.rest) := by
  obtain ⟨u, hu, hrest, _⟩ := Cursor.exists_skipSpace c
  obtain ⟨w, hw, hrest', _⟩ := Cursor.exists_skipSpace c.skipSpace.next
  refine ⟨u, w, hu, hw, hrest.trans (congrArg (u ++ ·) ?_)⟩
  simp only [nextName] at h
  split at h
  · cases h
  · rename_i x xs hx
    split at h
    · cases h
    · split at h
      · cases h
      · rename_i hcomma
        split at h
        · cases h
        · rename_i y ys hy
          have hquote : y = '"' ∧
              e = (if first then c.skipSpace else c.skipSpace.next.skipSpace).next := by
            split at h
            · rename_i hquote
              cases h
              exact ⟨hquote, rfl⟩
            · split at h <;> cases h
          obtain ⟨rfl, rfl⟩ := hquote
          cases first with
          | true => exact Cursor.rest_next (congrArg List.head? hy)
          | false =>
            obtain rfl : x = ',' := by simpa using hcomma
            have hy : c.skipSpace.next.skipSpace.rest = '"' :: ys := hy
            show c.skipSpace.rest = ',' :: (w ++ '"' :: c.skipSpace.next.skipSpace.next.rest)
            rw [← Cursor.rest_next (congrArg List.head? hy), ← hrest']
            exact Cursor.rest_next (congrArg List.head? hx)

theorem sound_readMembers {n : Nat} (h : readMembers n false d c = .ok (d', e)) :
    ∃ ms es s, d.TakesAll ms d' ∧ List.Forall₂ IsMember ms es ∧ Followed .object es s ∧
      c.rest = s ++ e.next.rest := by
  induction n generalizing d c with
  | zero => cases h
  | succ n ih =>
    obtain ⟨⟨more, c₁⟩, hnext, h⟩ := bind_eq_ok.mp h
    cases more with
    | false =>
      cases h
      obtain ⟨u, hu, hrest⟩ := nextName_false hnext
      refine ⟨[], [], _, .nil, .nil, .close hu, ?_⟩
      rw [hrest, List.append_assoc]
      rfl
    | true =>
      obtain ⟨⟨d₁, c₂⟩, hmember, h⟩ := bind_eq_ok.mp h
      obtain ⟨u, w, hu, hw, hrest⟩ := nextName_true hnext
      obtain ⟨m, s, htakes, hm, hrest₁⟩ := sound_readMember hmember
      obtain ⟨ms, es, t, hall, hms, ht, hrest₂⟩ := ih h
      refine ⟨m :: ms, _, _, .cons htakes hall, .cons hm hms, .more hu hw ht, ?_⟩
      rw [hrest, if_neg Bool.false_ne_true, hrest₁, hrest₂]
      simp

theorem sound_readObject (h : readObject c = .ok (r, e)) :
    ∃ ms es s, List.Forall₂ IsMember ms es ∧ Enclosed .object es ('\x7b' :: s) ∧ Writes ms r ∧
      c.rest = s ++ e.rest := by
  obtain ⟨⟨d, c₁⟩, hmembers, h⟩ := bind_eq_ok.mp h
  dsimp only at h
  split at h
  · cases h
  · rename_i r' hresponse
    cases h
    obtain ⟨⟨more, c₂⟩, hnext, h⟩ := bind_eq_ok.mp hmembers
    cases more with
    | false =>
      cases h
      obtain ⟨u, hu, hrest⟩ := nextName_false hnext
      refine ⟨[], [], _, .nil, .empty hu, writes_iff.mpr ⟨_, .nil, hresponse⟩, ?_⟩
      rw [hrest, List.append_assoc]
      rfl
    | true =>
      obtain ⟨⟨d₁, c₃⟩, hmember, h⟩ := bind_eq_ok.mp h
      obtain ⟨u, _, hu, _, hrest⟩ := nextName_true hnext
      obtain ⟨m, s, htakes, hm, hrest₁⟩ := sound_readMember hmember
      obtain ⟨ms, es, t, hall, hms, ht, hrest₂⟩ := sound_readMembers h
      refine ⟨m :: ms, _, _, .cons hm hms, .entries hu ht,
        writes_iff.mpr ⟨_, .cons htakes hall, hresponse⟩, ?_⟩
      rw [hrest, if_pos rfl, hrest₁, hrest₂]
      simp

theorem reads_nextName_false (hu : Blank u) (first : Bool) (t : List Char) :
    Reads (nextName first) (u ++ '\x7d' :: t) false ('\x7d' :: t) := by
  intro p
  obtain ⟨q, hq⟩ := Cursor.skipSpace_append hu (t := '\x7d' :: t) (by simp [Cursor.isSpace]) p
  exact ⟨q, by simp only [nextName, hq, if_true]⟩

theorem reads_nextName_first (hu : Blank u) (t : List Char) :
    Reads (nextName true) (u ++ '"' :: t) true t := by
  intro p
  obtain ⟨q, hq⟩ := Cursor.skipSpace_append hu (t := '"' :: t) (by simp [Cursor.isSpace]) p
  refine ⟨q.after '"', ?_⟩
  simp only [nextName, hq]
  rfl

theorem reads_nextName_comma (hu : Blank u) (hw : Blank w) (t : List Char) :
    Reads (nextName false) (u ++ ',' :: (w ++ '"' :: t)) true t := by
  intro p
  obtain ⟨q, hq⟩ := Cursor.skipSpace_append hu (t := ',' :: (w ++ '"' :: t))
    (by simp [Cursor.isSpace]) p
  obtain ⟨r, hr⟩ := Cursor.skipSpace_append hw (t := '"' :: t) (by simp [Cursor.isSpace])
    (q.after ',')
  refine ⟨r.after '"', ?_⟩
  simp only [nextName, hq, Cursor.next_cons, Bool.false_eq_true, if_false, hr]
  rfl

/-- One member, and then the others. -/
theorem reads_readMembers_succ {first : Bool} {n : Nat} {d'' : Draft}
    (hname : Reads (nextName first) s true u) (hmember : Reads (readMember d) u d' v)
    (hrest : Reads (readMembers n false d') v d'' t) :
    Reads (readMembers (n + 1) first d) s d'' t := by
  intro p
  obtain ⟨q, hq⟩ := hname p
  obtain ⟨q', hq'⟩ := hmember q
  obtain ⟨q'', hq''⟩ := hrest q'
  refine ⟨q'', ?_⟩
  simp only [readMembers, hq, bind, Except.bind, if_true, hq', hq'']

theorem complete_readMembers (hd : d.TakesAll ms d') (hms : List.Forall₂ IsMember ms es)
    (hs : Followed .object es s) (t : List Char) {n : Nat} (hn : es.length < n) :
    Reads (readMembers n false d) (s ++ t) d' ('\x7d' :: t) := by
  induction hs generalizing d ms n with
  | @close u hu =>
    cases hms
    cases hd
    obtain ⟨n, rfl⟩ := Nat.exists_eq_succ_of_ne_zero (Nat.ne_zero_of_lt hn)
    intro p
    obtain ⟨q, hq⟩ := reads_nextName_false hu false t p
    refine ⟨q, ?_⟩
    rw [List.append_assoc, readMembers]
    exact bind_eq_ok.mpr ⟨_, hq, rfl⟩
  | @more e u w s' es hu hw hs ih =>
    cases hms with
    | @cons m _ ms _ hm hms =>
      cases hd with
      | cons hd hall =>
        obtain ⟨n, rfl⟩ := Nat.exists_eq_succ_of_ne_zero (Nat.ne_zero_of_lt hn)
        obtain ⟨x, rfl⟩ : ∃ x, e = '"' :: x := by
          obtain ⟨_, _, _⟩ := hm
          exact ⟨_, rfl⟩
        have hname := reads_nextName_comma hu hw (x ++ (s' ++ t))
        have hmember := complete_readMember hd hm (hs.endsNumber t)
        simp only [List.append_assoc, List.cons_append]
        exact reads_readMembers_succ hname hmember (ih hall hms (Nat.lt_of_succ_lt_succ hn))

theorem complete_readObject (hms : List.Forall₂ IsMember ms es)
    (ho : Enclosed .object es ('\x7b' :: s)) (hr : Writes ms r) (t : List Char) :
    Reads readObject (s ++ t) r t := by
  obtain ⟨d, hd, hresponse⟩ := writes_iff.mp hr
  have hmembers : Reads (readMembers ((s ++ t).length + 1) true {}) (s ++ t) d ('\x7d' :: t) := by
    generalize ho' : '\x7b' :: s = s' at ho
    cases ho with
    | @empty u hu =>
      cases hms
      cases hd
      cases ho'
      intro p
      obtain ⟨q, hq⟩ := reads_nextName_false hu true t p
      refine ⟨q, ?_⟩
      rw [List.append_assoc, readMembers]
      exact bind_eq_ok.mpr ⟨_, hq, rfl⟩
    | @entries e u s' es hu hs =>
      cases ho'
      cases hms with
      | @cons m _ ms _ hm hms =>
        cases hd with
        | cons hd hall =>
          obtain ⟨x, rfl⟩ : ∃ x, e = '"' :: x := by
            obtain ⟨_, _, _⟩ := hm
            exact ⟨_, rfl⟩
          have hname := reads_nextName_first hu (x ++ (s' ++ t))
          have hmember := complete_readMember hd hm (hs.endsNumber t)
          have hlen := hs.length_lt
          have hrest := complete_readMembers hall hms hs t
            (n := (u ++ ('"' :: x ++ s') ++ t).length) (by simp only [List.length_append]; omega)
          simp only [List.append_assoc, List.cons_append] at hrest ⊢
          exact reads_readMembers_succ hname hmember hrest
  intro p
  obtain ⟨q, hq⟩ := hmembers p
  refine ⟨q.after '\x7d', ?_⟩
  have hq : readMembers (Cursor.left ⟨s ++ t, p⟩ + 1) true {} _ = _ := hq
  rw [readObject, hq]
  simp only [bind, Except.bind, hresponse, Cursor.next_cons]

/-! ## Values in order -/

/-- A value of a field is a value. -/
theorem Draft.Fill.value (h : d.Fill v f d') : Value v := by
  have string : ∀ s v, IsString s v → Value v := fun _ _ h => h.value
  cases h with
  | data hv => exact hv.value
  | title hv => exact hv.value_of string
  | color hv => exact hv.value_of string
  | code hv => exact hv.value_of fun _ _ h => h.value
  | status hv => exact hv.value_of string

/-- Behind the last value is the closing sign, which is left. -/
theorem nextItem_false {first : Bool} (h : nextItem first c = .ok (false, e)) :
    ∃ u, Blank u ∧ c.rest = u ++ e.rest := by
  obtain ⟨u, hu, hrest, _⟩ := Cursor.exists_skipSpace c
  refine ⟨u, hu, hrest.trans ?_⟩
  simp only [nextItem] at h
  split at h
  · cases h
  · split at h
    · cases h
      rfl
    · split at h
      · cases h
      · split at h
        · split at h
          · cases h
          · split at h <;> cases h
        · cases h

/-- The first value is behind blanks, a further one behind a comma too. -/
theorem nextItem_true {first : Bool} (h : nextItem first c = .ok (true, e)) :
    ∃ u w, Blank u ∧ Blank w ∧ c.rest = u ++ if first then e.rest else ',' :: (w ++ e.rest) := by
  obtain ⟨u, hu, hrest, _⟩ := Cursor.exists_skipSpace c
  obtain ⟨w, hw, hrest', _⟩ := Cursor.exists_skipSpace c.skipSpace.next
  refine ⟨u, w, hu, hw, hrest.trans (congrArg (u ++ ·) ?_)⟩
  simp only [nextItem] at h
  split at h
  · cases h
  · rename_i x xs hx
    split at h
    · cases h
    · split at h
      · rename_i hfirst
        cases h
        rw [if_pos hfirst]
      · rename_i hfirst
        split at h
        · rename_i hcomma
          split at h
          · cases h
          · split at h
            · cases h
            · cases h
              rw [if_neg hfirst, ← hrest', Cursor.rest_next (congrArg List.head? hx), hcomma]
        · cases h

theorem exists_closeList (h : closeList c = .ok e) :
    ∃ u, Blank u ∧ c.rest = u ++ ']' :: e.rest := by
  obtain ⟨u, hu, hrest, _⟩ := Cursor.exists_skipSpace c
  refine ⟨u, hu, hrest.trans ?_⟩
  simp only [closeList] at h
  split at h
  · cases h
  · rename_i x xs hx
    split at h
    · rename_i hclosing
      cases h
      rw [Cursor.rest_next (congrArg List.head? hx), hclosing]
    · split at h
      · split at h <;> cases h
      · cases h

/-- A value that is filled into a field is a member with the name of the field. -/
theorem Draft.Fill.takes (h : d.Fill v f d') (hd : d.has f = false) :
    d.Takes ⟨f.name.toList, v⟩ d' := .known (ofName?_eq_some_iff.mpr rfl) hd h

/-- The closing sign may be found while a field is still to be read, or behind the last one. -/
theorem sound_readItems {fs : List Field} (hfs : fs.Nodup) (hd : ∀ f ∈ fs, d.has f = false)
    {c₁ : Cursor} (h : readItems fs false d c = .ok (d', c₁)) (hclose : closeList c₁ = .ok e) :
    ∃ vs s, vs.length ≤ fs.length ∧ d.TakesAll (inOrder fs vs) d' ∧ Followed .list vs s ∧
      c.rest = s ++ e.rest := by
  obtain ⟨u₁, hu₁, hrest₁⟩ := exists_closeList hclose
  induction fs generalizing d c with
  | nil =>
    cases h
    refine ⟨[], _, Nat.le_refl _, .nil, .close hu₁, ?_⟩
    rw [hrest₁, List.append_assoc]
    rfl
  | cons f fs ih =>
    obtain ⟨⟨more, c₂⟩, hnext, h⟩ := bind_eq_ok.mp h
    cases more with
    | false =>
      cases h
      obtain ⟨u, hu, hrest⟩ := nextItem_false hnext
      refine ⟨[], _, Nat.zero_le _, .nil, .close (hu.append hu₁), ?_⟩
      rw [hrest, hrest₁]
      simp [Bracket.closing]
    | true =>
      obtain ⟨⟨d₁, c₃⟩, hfield, h⟩ := bind_eq_ok.mp h
      obtain ⟨u, w, hu, hw, hrest⟩ := nextItem_true hnext
      obtain ⟨w', v, hw', hfill, hrest₂⟩ := sound_readField hfield
      obtain ⟨hf, hfs⟩ := List.nodup_cons.mp hfs
      have hd₁ : ∀ g ∈ fs, d₁.has g = false := by
        intro g hg
        rw [hfill.has_of_ne (fun he => hf (he ▸ hg))]
        exact hd g (List.mem_cons_of_mem f hg)
      obtain ⟨vs, s, hlen, hall, hs, hrest₃⟩ := ih hfs hd₁ h
      refine ⟨v :: vs, _, Nat.succ_le_succ hlen,
        .cons (hfill.takes (hd f List.mem_cons_self)) hall, .more hu (hw.append hw') hs, ?_⟩
      have hrest₂ : c₂.rest = w' ++ (v ++ c₃.rest) := hrest₂
      rw [hrest, if_neg Bool.false_ne_true, hrest₂, hrest₃]
      simp

theorem sound_readList (h : readList c = .ok (r, e)) :
    ∃ vs s, vs.length ≤ Field.all.length ∧ Enclosed .list vs ('[' :: s) ∧
      Writes (inOrder Field.all vs) r ∧ c.rest = s ++ e.rest := by
  obtain ⟨⟨d, c₁⟩, hitems, h⟩ := bind_eq_ok.mp h
  dsimp only at h
  split at h
  · cases h
  · rename_i r' hresponse
    obtain ⟨c₂, hclose, h⟩ := bind_eq_ok.mp h
    cases h
    obtain ⟨⟨more, c₃⟩, hnext, h⟩ := bind_eq_ok.mp hitems
    cases more with
    | false =>
      cases h
      cases hresponse
    | true =>
      obtain ⟨⟨d₁, c₄⟩, hfield, h⟩ := bind_eq_ok.mp h
      obtain ⟨u, _, hu, _, hrest⟩ := nextItem_true hnext
      obtain ⟨w, v, hw, hfill, hrest₁⟩ := sound_readField hfield
      have hd₁ : ∀ g ∈ [Field.title, .color, .code, .status], d₁.has g = false := by
        intro g hg
        rw [hfill.has_of_ne (by rintro rfl; simp at hg)]
        cases g <;> rfl
      obtain ⟨vs, s, hlen, hall, hs, hrest₂⟩ := sound_readItems (by decide) hd₁ h hclose
      refine ⟨v :: vs, _, Nat.succ_le_succ hlen, .entries (hu.append hw) hs,
        writes_iff.mpr ⟨_, .cons (hfill.takes rfl) hall, hresponse⟩, ?_⟩
      have hrest₁ : c₃.rest = w ++ (v ++ c₄.rest) := hrest₁
      rw [hrest, if_pos rfl, hrest₁, hrest₂]
      simp

theorem reads_nextItem_false (hu : Blank u) (first : Bool) (t : List Char) :
    Reads (nextItem first) (u ++ ']' :: t) false (']' :: t) := by
  intro p
  obtain ⟨q, hq⟩ := Cursor.skipSpace_append hu (t := ']' :: t) (by simp [Cursor.isSpace]) p
  exact ⟨q, by simp only [nextItem, hq, if_true]⟩

theorem reads_nextItem_first (hu : Blank u) (hv : Value v) (t : List Char) :
    Reads (nextItem true) (u ++ (v ++ t)) true (v ++ t) := by
  obtain ⟨x, s, rfl, hspace, hclosing⟩ := Value.begins hv
  intro p
  obtain ⟨q, hq⟩ := Cursor.skipSpace_append hu (t := x :: s ++ t) (by simp [hspace]) p
  refine ⟨q, ?_⟩
  simp only [List.cons_append] at hq ⊢
  simp only [nextItem, hq, hclosing, if_false, if_true]

theorem reads_nextItem_comma (hu : Blank u) (hw : Blank w) (hv : Value v) (t : List Char) :
    Reads (nextItem false) (u ++ ',' :: (w ++ (v ++ t))) true (v ++ t) := by
  obtain ⟨x, s, rfl, hspace, hclosing⟩ := Value.begins hv
  intro p
  obtain ⟨q, hq⟩ := Cursor.skipSpace_append hu (t := ',' :: (w ++ (x :: s ++ t)))
    (by simp [Cursor.isSpace]) p
  obtain ⟨r, hr⟩ := Cursor.skipSpace_append hw (t := x :: s ++ t) (by simp [hspace])
    (q.after ',')
  refine ⟨r, ?_⟩
  simp only [List.cons_append] at hq hr ⊢
  simp only [nextItem, hq, Cursor.next_cons, Bool.false_eq_true, if_false, hr, hclosing, if_true]
  rfl

theorem passes_closeList (hu : Blank u) (t : List Char) :
    Passes closeList (u ++ ']' :: t) t := by
  intro p
  obtain ⟨q, hq⟩ := Cursor.skipSpace_append hu (t := ']' :: t) (by simp [Cursor.isSpace]) p
  exact ⟨q.after ']', by simp only [closeList, hq, if_true, Cursor.next_cons]⟩

theorem Draft.Takes.fill (h : d.Takes ⟨f.name.toList, v⟩ d') : d.Fill v f d' := by
  cases h with
  | unknown hm _ =>
    rw [ofName?_eq_some_iff.mpr rfl] at hm
    cases hm
  | known hm _ hv =>
    rw [ofName?_eq_some_iff.mpr rfl] at hm
    cases hm
    exact hv

theorem complete_readItems {fs : List Field} (hs : Followed .list vs s)
    (hd : d.TakesAll (inOrder fs vs) d') (hlen : vs.length ≤ fs.length) (t : List Char)
    (p : Place) :
    ∃ c q, readItems fs false d ⟨s ++ t, p⟩ = .ok (d', c) ∧ closeList c = .ok ⟨t, q⟩ := by
  induction hs generalizing fs d p with
  | @close u hu =>
    rw [List.append_assoc]
    cases fs with
    | nil =>
      cases hd
      obtain ⟨q, hq⟩ := passes_closeList hu t p
      exact ⟨_, q, rfl, hq⟩
    | cons f fs =>
      cases hd
      obtain ⟨q, hq⟩ := reads_nextItem_false hu false t p
      refine ⟨⟨']' :: t, q⟩, q.after ']', ?_, ?_⟩
      · rw [readItems]
        exact bind_eq_ok.mpr ⟨_, hq, rfl⟩
      · rw [closeList, Cursor.skipSpace_cons (by decide)]
        rfl
  | @more v u w s' vs hu hw hs ih =>
    cases fs with
    | nil => cases hlen
    | cons f fs =>
      cases hd with
      | cons hm hall =>
        have hv := hm.fill
        obtain ⟨q, hq⟩ := reads_nextItem_comma hu hw hv.value (s' ++ t) p
        obtain ⟨q₁, hq₁⟩ := complete_readField hv (u := []) nofun (hs.endsNumber t) q
        obtain ⟨c, q₂, hitems, hclose⟩ := ih hall (Nat.le_of_succ_le_succ hlen) q₁
        refine ⟨c, q₂, ?_, hclose⟩
        simp only [List.append_assoc, List.cons_append]
        rw [readItems]
        exact bind_eq_ok.mpr ⟨_, hq, bind_eq_ok.mpr ⟨_, hq₁, hitems⟩⟩

theorem complete_readList (ho : Enclosed .list vs ('[' :: s)) (hlen : vs.length ≤ Field.all.length)
    (hr : Writes (inOrder Field.all vs) r) (t : List Char) : Reads readList (s ++ t) r t := by
  obtain ⟨d, hd, hresponse⟩ := writes_iff.mp hr
  generalize hs : '[' :: s = s' at ho
  cases ho with
  | empty hu =>
    cases hd
    cases hresponse
  | @entries v u s' vs hu ht =>
    cases hs
    cases hd with
    | cons hm hall =>
      intro p
      have hv := hm.fill
      obtain ⟨q, hq⟩ := reads_nextItem_first hu hv.value (s' ++ t) p
      obtain ⟨q₁, hq₁⟩ := complete_readField hv (u := []) nofun (ht.endsNumber t) q
      obtain ⟨c, q₂, hitems, hclose⟩ :=
        complete_readItems ht hall (Nat.le_of_succ_le_succ hlen) t q₁
      refine ⟨q₂, ?_⟩
      simp only [List.append_assoc]
      rw [readList]
      refine bind_eq_ok.mpr ⟨(d, c), bind_eq_ok.mpr ⟨_, hq, bind_eq_ok.mpr ⟨_, hq₁, hitems⟩⟩, ?_⟩
      simp only [hresponse]
      exact bind_eq_ok.mpr ⟨_, hclose, rfl⟩

/-! ## The whole body -/

/-- Whether a text is a response, in one of the two forms. -/
def IsBody (r : Response) (o : List Char) : Prop := IsObject r o ∨ IsList r o

theorem sound_read (h : read c = .ok (r, e)) :
    ∃ u o, Blank u ∧ IsBody r o ∧ c.rest = u ++ (o ++ e.rest) := by
  obtain ⟨u, hu, hrest, _⟩ := Cursor.exists_skipSpace c
  simp only [read] at h
  split at h
  · cases h
  · rename_i x xs hx
    have hnext := Cursor.rest_next (congrArg List.head? hx)
    split at h
    · rename_i hlist
      obtain ⟨vs, s, hlen, ho, hr, hs⟩ := sound_readList h
      refine ⟨u, _, hu, .inr ⟨ho, hlen, hr⟩, ?_⟩
      rw [hrest, hnext, hlist, hs]
      rfl
    · split at h
      · rename_i hobject
        obtain ⟨ms, es, s, hm, ho, hr, hs⟩ := sound_readObject h
        refine ⟨u, _, hu, .inl ⟨hm, ho, hr⟩, ?_⟩
        rw [hrest, hnext, hobject, hs]
        rfl
      · cases h

theorem Enclosed.exists_cons {b : Bracket} (h : Enclosed b es s) : ∃ s', s = b.opening :: s' := by
  cases h <;> exact ⟨_, rfl⟩

theorem complete_read {o : List Char} (hu : Blank u) (ho : IsBody r o) (t : List Char) :
    Reads read (u ++ (o ++ t)) r t := by
  intro p
  obtain ⟨hm, ho, hr⟩ | ⟨ho, hlen, hr⟩ := ho
  · obtain ⟨s, rfl⟩ := ho.exists_cons
    obtain ⟨q, hq⟩ := Cursor.skipSpace_append hu (t := '\x7b' :: (s ++ t))
      (by simp [Cursor.isSpace]) p
    obtain ⟨q', hread⟩ := complete_readObject hm ho hr t (q.after '\x7b')
    refine ⟨q', ?_⟩
    have hq : Cursor.skipSpace ⟨u ++ (Bracket.object.opening :: s ++ t), p⟩ = _ := hq
    simp only [read, hq, Cursor.next_cons, hread]
    rfl
  · obtain ⟨s, rfl⟩ := ho.exists_cons
    obtain ⟨q, hq⟩ := Cursor.skipSpace_append hu (t := '[' :: (s ++ t))
      (by simp [Cursor.isSpace]) p
    obtain ⟨q', hread⟩ := complete_readList ho hlen hr t (q.after '[')
    refine ⟨q', ?_⟩
    have hq : Cursor.skipSpace ⟨u ++ (Bracket.list.opening :: s ++ t), p⟩ = _ := hq
    simp only [read, hq, Cursor.next_cons, hread, if_true]

/-- A text is read to its end exactly if only blanks are left. -/
theorem expectEnd_eq_ok_iff : expectEnd c = .ok () ↔ Blank c.rest := by
  obtain ⟨u, hu, hrest, hhead⟩ := Cursor.exists_skipSpace c
  rw [hrest]
  unfold expectEnd
  dsimp only
  cases hs : c.skipSpace.rest with
  | nil => simpa using hu
  | cons x s =>
    have hx : Cursor.isSpace x = false := hhead x (by rw [hs]; rfl)
    refine iff_of_false (by simp) fun h => ?_
    rw [h x (by simp)] at hx
    cases hx

/-- A text is read as a response exactly if it is that response in one of the two forms, up to
blanks around it. -/
theorem decode_eq_ok_iff {s : String} :
    decode s = .ok r ↔ Padded (IsObject r) s.toList ∨ Padded (IsList r) s.toList := by
  have hpadded : (∃ u o w, Blank u ∧ IsBody r o ∧ Blank w ∧ s.toList = u ++ (o ++ w)) ↔
      Padded (IsObject r) s.toList ∨ Padded (IsList r) s.toList := by
    constructor
    · rintro ⟨u, o, w, hu, ho | ho, hw, hs⟩
      · exact .inl (hs ▸ ⟨hu, ho, hw⟩)
      · exact .inr (hs ▸ ⟨hu, ho, hw⟩)
    · generalize s.toList = l
      rintro (⟨hu, ho, hw⟩ | ⟨hu, ho, hw⟩)
      · exact ⟨_, _, _, hu, .inl ho, hw, rfl⟩
      · exact ⟨_, _, _, hu, .inr ho, hw, rfl⟩
  rw [← hpadded]
  constructor
  · intro h
    obtain ⟨⟨r', c⟩, hread, h⟩ := bind_eq_ok.mp h
    obtain ⟨⟨⟩, hend, h⟩ := bind_eq_ok.mp h
    cases h
    obtain ⟨u, o, hu, ho, hrest⟩ := sound_read hread
    exact ⟨u, o, c.rest, hu, ho, expectEnd_eq_ok_iff.mp hend, hrest⟩
  · rintro ⟨u, o, w, hu, ho, hw, hs⟩
    obtain ⟨q, hq⟩ := complete_read hu ho w Place.start
    rw [decode, Cursor.ofText, hs]
    exact bind_eq_ok.mpr ⟨_, hq, bind_eq_ok.mpr ⟨(), expectEnd_eq_ok_iff.mpr hw, rfl⟩⟩

end TaintClient.Response

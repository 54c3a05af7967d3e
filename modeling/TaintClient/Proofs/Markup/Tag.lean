/-
  Tags that are read as they are written. Such a tag has a name in small letters, and attributes
  each of another name, their values between double marks. Of a value only three things matter: it
  has no double mark, which would end it, no ampersand, which could begin a reference, and no null
  character. Whatever else it holds, signs of markup included, the tag is read with that value, and
  reading goes on behind its closing sign.
-/
import TaintClient.Markup.Tokenizer
import TaintClient.Proofs.Text.Parts

namespace TaintClient.Markup

variable {c : Char} {d : TagDraft} {n s t v : List Char} {place : TagPlace} {r : Reading}

/-! ## Writing -/

/-- Whether a character stands for itself in the name of a tag or of an attribute. -/
def isNameable (c : Char) : Bool := c.isLower || c.isDigit || c = '-'

/-- An attribute as it is written behind the name of a tag. -/
def writeAttribute (a : List Char × List Char) : List Char :=
  ' ' :: (a.1 ++ '=' :: '"' :: (a.2 ++ ['"']))

/-- A tag as it is written behind the signs that open it. -/
def Tag.write (t : Tag) : List Char := t.name ++ (t.attributes.flatMap writeAttribute ++ ['>'])

/-- Whether a value is read as it is written. -/
def IsPlainValue (v : List Char) : Prop := ∀ c ∈ v, c ≠ '"' ∧ c ≠ '&' ∧ c ≠ '\x00'

/-- Whether a tag is read as it is written. -/
structure Tag.IsPlain (t : Tag) : Prop where
  first : t.name.head?.any Char.isAlpha = true
  name : ∀ c ∈ t.name, isNameable c = true
  attributeName : ∀ a ∈ t.attributes, a.1 ≠ [] ∧ ∀ c ∈ a.1, isNameable c = true
  distinct : (t.attributes.map (·.1)).Nodup
  value : ∀ a ∈ t.attributes, IsPlainValue a.2
  selfClosing : t.selfClosing = false

-- by lists, where it is computed: not by the type of all characters, which is finite too
instance : Decidable (IsPlainValue v) :=
  List.decidableBAll (fun c => c ≠ '"' ∧ c ≠ '&' ∧ c ≠ '\x00') v

theorem IsPlainValue.append {u : List Char} (hu : IsPlainValue u) (hv : IsPlainValue v) :
    IsPlainValue (u ++ v) := fun c hc => (List.mem_append.mp hc).elim (hu c) (hv c)

instance (t : Tag) : Decidable t.IsPlain :=
  decidable_of_iff
    (t.name.head?.any Char.isAlpha = true ∧ t.name.all isNameable = true ∧
      t.attributes.all (fun a => !a.1.isEmpty && a.1.all isNameable) = true ∧
      (t.attributes.map (·.1)).Nodup ∧
      t.attributes.all (fun a => decide (IsPlainValue a.2)) = true ∧ t.selfClosing = false) <| by
    simp only [List.all_eq_true, Bool.and_eq_true, Bool.not_eq_true', List.isEmpty_eq_false_iff,
      decide_eq_true_eq]
    exact ⟨fun ⟨hf, hn, ha, hd, hv, hs⟩ => ⟨hf, hn, ha, hd, hv, hs⟩,
      fun h => ⟨h.first, h.name, h.attributeName, h.distinct, h.value, h.selfClosing⟩⟩

/-- A plain tag stays plain under other plain values. -/
theorem Tag.IsPlain.of_names {t u : Tag} (h : u.IsPlain) (hname : t.name = u.name)
    (hnames : t.attributes.map (·.1) = u.attributes.map (·.1))
    (hself : t.selfClosing = u.selfClosing) (hvalue : ∀ a ∈ t.attributes, IsPlainValue a.2) :
    t.IsPlain where
  first := by rw [hname, h.first]
  name := by rw [hname]; exact h.name
  attributeName := by
    intro a ha
    obtain ⟨b, hb, hab⟩ := List.mem_map.mp (hnames ▸ List.mem_map_of_mem ha)
    exact hab ▸ h.attributeName b hb
  distinct := by rw [hnames]; exact h.distinct
  value := hvalue
  selfClosing := by rw [hself, h.selfClosing]

/-! ## Names and values -/

theorem toLower_of_isNameable (h : isNameable c = true) : c.toLower = c := by
  refine dif_neg ?_
  rintro ⟨hA, hZ⟩
  simp only [isNameable, Bool.or_eq_true, decide_eq_true_eq] at h
  obtain (hlower | hdigit) | rfl := h
  · have ha := of_decide_eq_true (Bool.and_eq_true_iff.mp hlower).1
    exact absurd (UInt32.le_trans ha hZ) (by decide)
  · have h9 := of_decide_eq_true (Bool.and_eq_true_iff.mp hdigit).2
    exact absurd (UInt32.le_trans hA h9) (by decide)
  · exact absurd hA (by decide)

/-- A character of a name is none of the signs that end it, and no capital letter. -/
theorem of_isNameable (h : isNameable c = true) :
    isSpace c = false ∧ c ≠ '/' ∧ c ≠ '>' ∧ c ≠ '=' ∧ TagDraft.nameChar c = c := by
  have hne : ∀ x : Char, isNameable x = false → c ≠ x := by
    rintro x hx rfl
    rw [h] at hx
    cases hx
  have hspace : isSpace c = false := by
    simp [isSpace, hne ' ' rfl, hne '\n' rfl, hne '\t' rfl, hne '\x0c' rfl, hne '\r' rfl]
  refine ⟨hspace, hne _ rfl, hne _ rfl, hne _ rfl, ?_⟩
  rw [TagDraft.nameChar, if_neg (hne _ rfl), toLower_of_isNameable h]

theorem readTag_name (hs : ∀ c ∈ s, isNameable c = true) (d : TagDraft) (t : List Char) :
    readTag .name d (s ++ t) = readTag .name { d with name := s.reverse ++ d.name } t := by
  induction s generalizing d with
  | nil => rfl
  | cons c s ih =>
    obtain ⟨hspace, hsolidus, hclosing, _, hname⟩ := of_isNameable (hs c List.mem_cons_self)
    have hstep : d.step .name c = (.name, d.pushName c) := by
      simp only [TagDraft.step, hspace, Bool.false_eq_true, if_false, hsolidus]
    rw [List.cons_append, readTag, if_neg (fun h => hclosing h.1), hstep]
    dsimp only
    rw [ih fun x hx => hs x (List.mem_cons_of_mem c hx)]
    simp [TagDraft.pushName, hname]

theorem TagDraft.set_current {a : List Char × List Char} (hd : d.current = some a) :
    { d with current := some a } = d := by
  cases d
  cases hd
  rfl

theorem readTag_attributeName (hs : ∀ c ∈ s, isNameable c = true) (hd : d.current = some (n, v))
    (t : List Char) :
    readTag .attributeName d (s ++ t) =
      readTag .attributeName { d with current := some (s.reverse ++ n, v) } t := by
  induction s generalizing d n with
  | nil => rw [List.reverse_nil, List.nil_append, List.nil_append, TagDraft.set_current hd]
  | cons c s ih =>
    obtain ⟨hspace, hsolidus, hclosing, hequals, hname⟩ := of_isNameable (hs c List.mem_cons_self)
    have hstep : d.step .attributeName c = (.attributeName, d.pushAttribute c) := by
      simp only [TagDraft.step, hspace, Bool.false_eq_true, if_false, hsolidus, hequals]
    have hpush : (d.pushAttribute c).current = some (c :: n, v) := by
      simp only [TagDraft.pushAttribute, hd, Option.map_some, hname]
    rw [List.cons_append, readTag, if_neg (fun h => hclosing h.1), hstep]
    dsimp only
    rw [ih (fun x hx => hs x (List.mem_cons_of_mem c hx)) hpush]
    simp [TagDraft.pushAttribute]

theorem readTag_value (hs : IsPlainValue s) (hd : d.current = some (n, v)) (t : List Char) :
    readTag (.value (some .double)) d (s ++ t) =
      readTag (.value (some .double)) { d with current := some (n, s.reverse ++ v) } t := by
  induction s generalizing d v with
  | nil => rw [List.reverse_nil, List.nil_append, List.nil_append, TagDraft.set_current hd]
  | cons c s ih =>
    obtain ⟨hquote, _, hnull⟩ := hs c List.mem_cons_self
    have hstep : d.step (.value (some .double)) c = (.value (some .double), d.pushValue c) := by
      simp only [TagDraft.step, Quote.sign, hquote, if_false]
    have hpush : (d.pushValue c).current = some (n, c :: v) := by
      simp only [TagDraft.pushValue, hd, Option.map_some, TagDraft.valueChar, hnull, if_false]
    rw [List.cons_append, readTag, if_neg (fun h => h.2 rfl), hstep]
    dsimp only
    rw [ih (fun x hx => hs x (List.mem_cons_of_mem c hx)) hpush]
    simp [TagDraft.pushValue]

/-- A value without an ampersand has no reference. -/
theorem attributeText_of_isPlainValue (hs : IsPlainValue s) : attributeText s = s := by
  induction s with
  | nil => rw [attributeText]
  | cons c s ih =>
    rw [attributeText, if_neg (hs c List.mem_cons_self).2.1,
      ih fun x hx => hs x (List.mem_cons_of_mem c hx)]

/-! ## Attributes -/

/-- The places where an attribute may follow, or the end of the tag. -/
def TagPlace.IsBehindWord : TagPlace → Prop
  | .name | .afterValue => True
  | _ => False

theorem isBehindWord_name : TagPlace.name.IsBehindWord := trivial

theorem isBehindWord_afterValue : TagPlace.afterValue.IsBehindWord := trivial

theorem readTag_attribute (hplace : place.IsBehindWord) (hn : n ≠ [])
    (hname : ∀ c ∈ n, isNameable c = true) (hv : IsPlainValue v) (d : TagDraft) (t : List Char) :
    readTag place d (writeAttribute (n, v) ++ t) =
      readTag .afterValue { d.finish with current := some (n.reverse, v.reverse) } t := by
  obtain ⟨c, n, rfl⟩ := List.exists_cons_of_ne_nil hn
  obtain ⟨hspace, hsolidus, hclosing, _, hc⟩ := of_isNameable (hname c List.mem_cons_self)
  have hblank : d.step place ' ' = (.beforeAttribute, d) := by
    cases place <;> first | rfl | cases hplace
  have hstart : d.step .beforeAttribute c = (.attributeName, d.start c) := by
    simp only [TagDraft.step, TagDraft.before, hspace, Bool.false_eq_true, if_false, hsolidus]
  have hcurrent : (d.start c).current = some ([c], []) := by
    simp only [TagDraft.start, hc]
  have hequals : ∀ e : TagDraft, e.step .attributeName '=' = (.beforeValue, e) := fun _ => rfl
  have hopen : ∀ e : TagDraft, e.step .beforeValue '"' = (.value (some .double), e) :=
    fun _ => rfl
  have hclose : ∀ e : TagDraft, e.step (.value (some .double)) '"' = (.afterValue, e) :=
    fun _ => rfl
  have hsign : ∀ (x : Char) (q : TagPlace), x ≠ '>' → ¬ (x = '>' ∧ ¬ q.quoted = true) :=
    fun _ _ hx h => hx h.1
  rw [writeAttribute]
  simp only [List.cons_append, List.append_assoc, List.nil_append]
  -- the blank, the name, the equals sign, the mark, the value, the mark
  rw [readTag, if_neg (hsign _ _ (by decide)), hblank]
  dsimp only
  rw [readTag, if_neg (hsign _ _ hclosing), hstart]
  dsimp only
  rw [readTag_attributeName (fun x hx => hname x (List.mem_cons_of_mem c hx)) hcurrent, readTag,
    if_neg (hsign _ _ (by decide)), hequals]
  dsimp only
  rw [readTag, if_neg (hsign _ _ (by decide)), hopen]
  dsimp only
  rw [readTag_value hv rfl, readTag, if_neg (hsign _ _ (by decide)), hclose]
  simp [TagDraft.start]

theorem TagDraft.name_finish (d : TagDraft) : d.finish.name = d.name := by
  unfold finish
  split
  · rfl
  · dsimp only
    split <;> rfl

/-- An attribute of a new name is kept. -/
theorem TagDraft.attributes_finish (hn : ∀ a ∈ d.attributes, a.1 ≠ n) (hv : IsPlainValue v) :
    (TagDraft.finish { d with current := some (n.reverse, v.reverse) }).attributes =
      d.attributes ++ [(n, v)] := by
  have hnew : d.attributes.any (·.1 = n) = false := by
    simpa using hn
  unfold finish
  simp only [List.reverse_reverse, hnew, Bool.false_eq_true, if_false,
    attributeText_of_isPlainValue hv]

theorem readTag_attributes {as : List (List Char × List Char)} (hplace : place.IsBehindWord)
    (hname : ∀ a ∈ as, a.1 ≠ [] ∧ ∀ c ∈ a.1, isNameable c = true)
    (hvalue : ∀ a ∈ as, IsPlainValue a.2) (hdistinct : (as.map (·.1)).Nodup) (d : TagDraft)
    (hnew : ∀ a ∈ as, ∀ b ∈ d.finish.attributes, b.1 ≠ a.1) (t : List Char) :
    readTag place d (as.flatMap writeAttribute ++ '>' :: t) =
      some (⟨d.name.reverse, d.finish.attributes ++ as, false⟩, t) := by
  induction as generalizing d place with
  | nil =>
    have hclose : ('>' : Char) = '>' ∧ ¬ place.quoted = true := by
      cases place <;> first | exact ⟨rfl, Bool.false_ne_true⟩ | cases hplace
    have hself : place.closesItself = false := by
      cases place <;> first | rfl | cases hplace
    rw [List.flatMap_nil, List.nil_append, readTag, if_pos hclose, hself, List.append_nil,
      TagDraft.tag]
  | cons a as ih =>
    obtain ⟨hn, hname'⟩ := hname a List.mem_cons_self
    obtain ⟨hfresh, hdistinct⟩ := List.nodup_cons.mp hdistinct
    have hfinish := TagDraft.attributes_finish (d := d.finish) (hnew a List.mem_cons_self)
      (hvalue a List.mem_cons_self)
    rw [List.flatMap_cons, List.append_assoc,
      readTag_attribute hplace hn hname' (hvalue a List.mem_cons_self),
      ih isBehindWord_afterValue (fun b hb => hname b (List.mem_cons_of_mem a hb))
        (fun b hb => hvalue b (List.mem_cons_of_mem a hb)) hdistinct, hfinish]
    · simp [TagDraft.name_finish]
    · intro b hb e he
      rw [hfinish] at he
      obtain he | he := List.mem_append.mp he
      · exact hnew b (List.mem_cons_of_mem a hb) e he
      · obtain rfl := List.mem_singleton.mp he
        intro heq
        exact hfresh (List.mem_map.mpr ⟨b, hb, heq.symm⟩)

/-- A plain tag is read as it is written, up to its closing sign. -/
theorem readTag_write {tag : Tag} (h : tag.IsPlain) (t : List Char) :
    readTag .name {} (tag.write ++ t) = some (tag, t) := by
  obtain ⟨name, attributes, selfClosing⟩ := tag
  obtain rfl : selfClosing = false := h.selfClosing
  simp only [Tag.write, List.append_assoc, List.singleton_append]
  rw [readTag_name h.name,
    readTag_attributes isBehindWord_name h.attributeName h.value h.distinct]
  · simp [TagDraft.finish]
  · intro a _ b hb
    cases hb

/-! ## Steps -/

theorem lessStep_of_isAlpha (hc : c.isAlpha = true) (r : Reading) (f : Bool) (s : List Char) :
    lessStep r f (c :: s) = tagStep r (c :: s) false := by
  unfold lessStep
  split
  · cases ‹c :: s = []›
  · rename_i h
    cases h
    cases hc
  · rename_i h
    cases h
    cases hc
  · rename_i h
    cases h
    rw [if_pos hc]

theorem lessStep_of_solidus (hc : c.isAlpha = true) (r : Reading) (f : Bool) (s : List Char) :
    lessStep r f ('/' :: c :: s) = tagStep r (c :: s) true := by
  show (if c.isAlpha then _ else _) = _
  rw [if_pos hc]

theorem Tag.IsPlain.exists_cons {tag : Tag} (h : tag.IsPlain) :
    ∃ c s, tag.write = c :: s ∧ c.isAlpha = true := by
  have hfirst := h.first
  cases hname : tag.name with
  | nil => simp [hname] at hfirst
  | cons c s =>
    rw [hname] at hfirst
    exact ⟨c, _, by rw [Tag.write, hname]; rfl, by simpa using hfirst⟩

/-- The step of a start tag. -/
theorem step_startTag {tag : Tag} (h : tag.IsPlain) (hr : r.content = .markup) (f : Bool)
    (t : List Char) :
    step r f '<' (tag.write ++ t) =
      ⟨[.startTag tag], { r with lastStart := tag.name }, t⟩ := by
  have hread := readTag_write h t
  obtain ⟨c, s, hs, hc⟩ := h.exists_cons
  rw [hs, List.cons_append] at hread ⊢
  simp only [step, hr, if_true, lessStep_of_isAlpha hc, tagStep, hread, Bool.false_eq_true,
    if_false]

/-- The step of an end tag. -/
theorem step_endTag {tag : Tag} (h : tag.IsPlain) (hr : r.content = .markup) (f : Bool)
    (t : List Char) :
    step r f '<' ('/' :: (tag.write ++ t)) = ⟨[.endTag tag], r, t⟩ := by
  have hread := readTag_write h t
  obtain ⟨c, s, hs, hc⟩ := h.exists_cons
  rw [hs, List.cons_append] at hread ⊢
  simp only [step, hr, if_true, lessStep_of_solidus hc, tagStep, hread]

/-- The step of a run of text, up to a sign of markup. -/
theorem step_text (hs : s ≠ []) (htext : ∀ c ∈ s, isMarkup c = false) (hr : r.content = .markup)
    (f : Bool) (ht : ∀ c, t.head? = some c → isMarkup c = true) :
    ∃ c u, s ++ t = c :: u ∧ step r f c u = ⟨[.text s], r, t⟩ := by
  obtain ⟨c, s, rfl⟩ := List.exists_cons_of_ne_nil hs
  have hc := htext c List.mem_cons_self
  have htext' : ∀ x ∈ c :: s, (!isMarkup x) = true := fun x hx => by rw [htext x hx]; rfl
  have hstop : ∀ x, t.head? = some x → (!isMarkup x) = false := fun x hx => by rw [ht x hx]; rfl
  have hrun : runStep r isMarkup (c :: s ++ t) = ⟨[.text (c :: s)], r, t⟩ := by
    rw [runStep, Text.takeWhile_append_of_head? htext' hstop,
      Text.dropWhile_append_of_head? htext' hstop]
  refine ⟨c, s ++ t, rfl, ?_⟩
  simp only [isMarkup, Bool.or_eq_false_iff, decide_eq_false_iff_not] at hc
  simp only [step, hr, hc, if_false]
  exact hrun

/-! ## Tokens -/

theorem tokens_cons (r : Reading) (c : Char) (s : List Char) :
    tokens r (c :: s) =
      (step r false c s).tokens ++ tokens (step r false c s).reading (step r false c s).rest := by
  rw [tokens]

theorem tokens_startTag {tag : Tag} (h : tag.IsPlain) (hr : r.content = .markup) (t : List Char) :
    tokens r ('<' :: (tag.write ++ t)) =
      .startTag tag :: tokens { r with lastStart := tag.name } t := by
  rw [tokens_cons, step_startTag h hr]
  rfl

theorem tokens_endTag {tag : Tag} (h : tag.IsPlain) (hr : r.content = .markup) (t : List Char) :
    tokens r ('<' :: '/' :: (tag.write ++ t)) = .endTag tag :: tokens r t := by
  rw [tokens_cons, step_endTag h hr]
  rfl

theorem tokens_text (hs : s ≠ []) (htext : ∀ c ∈ s, isMarkup c = false) (hr : r.content = .markup)
    (ht : ∀ c, t.head? = some c → isMarkup c = true) :
    tokens r (s ++ t) = .text s :: tokens r t := by
  obtain ⟨c, u, hcons, hstep⟩ := step_text hs htext hr false ht
  rw [hcons, tokens_cons, hstep]
  rfl

end TaintClient.Markup

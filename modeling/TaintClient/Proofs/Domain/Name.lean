/-
  The ASCII form of a name is a name whose ASCII form is itself (`toAscii?_of_toAscii?`). It has
  only characters that stay as they are and have no meaning of their own around names (`InName`), so
  that it is split into the labels that it was put together from; and a label that was written is
  read as the label that it was written for (`readLabel?_of_writeLabel?`).
-/
import TaintClient.Domain.Name
import TaintClient.Proofs.Domain.Punycode
import TaintClient.Proofs.Except
import TaintClient.Proofs.Text.OneLine

namespace TaintClient.Domain

variable {s t label out : List Char} {c d : Char}

/-! ## Characters of names -/

/-- Whether a character is ASCII and stands in a name as it is. -/
def InName (c : Char) : Prop := c.toNat < 128 ∧ c.toLower = c ∧ isReserved c = false

instance : DecidablePred InName := fun _ => inferInstanceAs (Decidable (_ ∧ _))

theorem InName.lt (h : InName c) : c.toNat < 128 := h.1

theorem InName.changed (h : InName c) : changed c = [c] := by
  rw [Domain.changed, if_pos h.1, h.2.1]

theorem InName.isPlain (h : InName c) : isPlain c = true := by
  simp [Domain.isPlain, h.changed, h.lt]

/-- It is none of the signs around names. -/
theorem InName.ne (h : InName c) (hd : isReserved d = true) : c ≠ d := by
  rintro rfl
  rw [h.2.2] at hd
  cases hd

theorem InName.lt_and_gt (h : InName c) : 32 < c.toNat ∧ c.toNat < 127 := by
  obtain ⟨hlt, -, hreserved⟩ := h
  simp only [isReserved, Bool.or_eq_false_iff, decide_eq_false_iff_not] at hreserved
  omega

theorem inName_point : InName '.' := by decide

theorem flatMap_changed (h : ∀ c ∈ s, InName c) : s.flatMap changed = s := by
  induction s with
  | nil => rfl
  | cons c s ih =>
    obtain ⟨hc, hs⟩ := List.forall_mem_cons.mp h
    rw [List.flatMap_cons, hc.changed, ih hs, List.singleton_append]

theorem composed_of_inName (h : ∀ c ∈ s, InName c) : Text.composed s = s := by
  refine if_pos (List.all_eq_true.mpr fun c hc => decide_eq_true ?_)
  exact Nat.lt_trans (h c hc).lt (by decide)

theorem isMark_eq_false (h : c.toNat < 128) : Text.isMark c = false := by
  have hlt : ¬ Text.firstMark ≤ c.toNat := Nat.not_le.mpr (Nat.lt_trans h (by decide))
  rw [Text.isMark, decide_eq_false hlt, Bool.false_and]

theorem turns_eq_false (h : c.toNat < 128) : turns c = false := by
  rw [turns, decide_eq_false (Nat.not_le.mpr h), Bool.false_and]

theorem mayJoin_of_lt (h : c.toNat < 128) (s t : List Char) : mayJoin c s t = true := by
  have hjoiner : c ≠ joiner := fun heq => absurd (heq ▸ h) (by decide)
  have hnonJoiner : c ≠ nonJoiner := fun heq => absurd (heq ▸ h) (by decide)
  rw [mayJoin, if_neg hjoiner, if_neg hnonJoiner]

theorem joinsSoundly_of_lt (h : ∀ c ∈ t, c.toNat < 128) (s : List Char) :
    joinsSoundly s t = true := by
  induction t generalizing s with
  | nil => rfl
  | cons c t ih =>
    obtain ⟨hc, ht⟩ := List.forall_mem_cons.mp h
    rw [joinsSoundly, mayJoin_of_lt hc, ih ht, Bool.and_self]

/-! ## Labels -/

/-- A sound label, part by part. -/
theorem isSound_iff :
    isSound label = true ↔
      (∀ c ∈ label, (isPlain c = true ∧ isReserved c = false) ∧ c ≠ '.') ∧
        Text.composed label = label ∧ label.head?.any Text.isMark = false ∧
        spelledPrefix.isPrefixOf label = false ∧ joinsSoundly [] label = true := by
  simp [isSound, and_assoc]

theorem inName_of_isSound (h : isSound label = true) :
    ∀ c ∈ label, c.toNat < 128 → InName c ∧ c ≠ '.' := by
  intro c hc hlt
  obtain ⟨⟨hplain, hreserved⟩, hpoint⟩ := (isSound_iff.mp h).1 c hc
  have hchanged : changed c = [c] := of_decide_eq_true (Bool.and_eq_true _ _ ▸ hplain).1
  rw [changed, if_pos hlt] at hchanged
  exact ⟨⟨hlt, List.singleton_inj.mp hchanged, hreserved⟩, hpoint⟩

theorem isSound_of_inName (h : ∀ c ∈ label, InName c ∧ c ≠ '.')
    (hbegins : spelledPrefix.isPrefixOf label = false) : isSound label = true := by
  refine isSound_iff.mpr ⟨fun c hc => ?_, composed_of_inName fun c hc => (h c hc).1, ?_, hbegins,
    joinsSoundly_of_lt (fun c hc => (h c hc).1.lt) []⟩
  · exact ⟨⟨(h c hc).1.isPlain, (h c hc).1.2.2⟩, (h c hc).2⟩
  · cases label with
    | nil => rfl
    | cons c label => exact isMark_eq_false (h c List.mem_cons_self).1.lt

/-- What is read is sound. -/
theorem isSound_of_readLabel? (h : readLabel? label = some out) : isSound out = true := by
  unfold readLabel? at h
  dsimp only at h
  split at h
  · split at h
    · cases h
    · split at h
      · cases h
      · split at h
        · rename_i hsound
          cases h
          exact hsound.2
        · cases h
  · split at h
    · rename_i hsound
      cases h
      exact hsound
    · cases h

theorem inName_encode (h : isSound label = true) :
    ∀ c ∈ Punycode.encode label, InName c ∧ c ≠ '.' := by
  intro c hc
  obtain hbasic | rfl | ⟨d, hd, rfl⟩ := Punycode.mem_encode hc
  · obtain ⟨hmem, hlt⟩ := List.mem_filter.mp hbasic
    exact inName_of_isSound h c hmem (of_decide_eq_true hlt)
  · decide
  · exact (by decide : ∀ d < 36, InName (Punycode.digit d) ∧ Punycode.digit d ≠ '.') d hd

/-- A label is written in characters that stay as they are. -/
theorem inName_of_writeLabel? (hs : isSound label = true) (h : writeLabel? label = some out) :
    ∀ c ∈ out, InName c ∧ c ≠ '.' := by
  unfold writeLabel? at h
  split at h
  · rename_i hascii
    cases h
    intro c hc
    exact inName_of_isSound hs c hc (of_decide_eq_true (List.all_eq_true.mp hascii c hc))
  · split at h
    · cases h
    · cases h
      have hspelled : ∀ c ∈ ['x', 'n', '-', '-'], InName c ∧ c ≠ '.' := by
        simp only [List.forall_mem_cons]
        exact ⟨by decide, by decide, by decide, by decide, List.forall_mem_nil _⟩
      exact List.forall_mem_append.mpr ⟨hspelled, inName_encode hs⟩

/-- A label that is written is read as it was. -/
theorem readLabel?_of_writeLabel? (hs : isSound label = true) (h : writeLabel? label = some out) :
    readLabel? out = some label := by
  unfold writeLabel? at h
  split at h
  · cases h
    rw [readLabel?, (isSound_iff.mp hs).2.2.2.1, if_neg Bool.false_ne_true, if_pos hs]
  · rename_i hascii
    split at h
    · cases h
    · cases h
      have hbegins : spelledPrefix.isPrefixOf (spelledPrefix ++ Punycode.encode label) = true :=
        List.isPrefixOf_iff_prefix.mpr (List.prefix_append _ _)
      have hspelled : isAscii (Punycode.encode label) = true :=
        List.all_eq_true.mpr fun c hc => decide_eq_true (inName_encode hs c hc).1.lt
      rw [readLabel?, if_pos hbegins, List.drop_left]
      dsimp only
      rw [if_neg (not_not.mpr hspelled), Punycode.decode_spelling]
      exact if_pos ⟨hascii, hs⟩

/-! ## Names -/

/-- How the ASCII form of a name comes about. -/
theorem exists_labels (h : toAscii? s = some out) :
    ∃ labels written, labels ≠ [] ∧ (∀ label ∈ labels, isSound label = true) ∧
      ¬ (labels.any (·.any turns) = true ∧ ¬ labels.all readsEitherWay = true) ∧
      labels.mapM writeLabel? = some written ∧ joinLabels written = out := by
  unfold toAscii? at h
  dsimp only at h
  split at h
  · cases h
  · rename_i labels hlabels
    split at h
    · cases h
    · rename_i hturns
      obtain ⟨written, hwritten, hout⟩ := Option.map_eq_some_iff.mp h
      refine ⟨labels, written, ?_, fun label hlabel => ?_, hturns, hwritten, hout⟩
      · rintro rfl
        exact List.splitOn_ne_nil _ _ (List.length_eq_zero_iff.mp (length_of_mapM hlabels).symm)
      · obtain ⟨_, _, hread⟩ := exists_of_mem_mapM hlabels label hlabel
        exact isSound_of_readLabel? hread

theorem inName_joinLabels {written : List (List Char)}
    (h : ∀ label ∈ written, ∀ c ∈ label, InName c ∧ c ≠ '.') :
    ∀ c ∈ joinLabels written, InName c :=
  Text.forall_mem_intercalate (List.forall_mem_singleton.mpr inName_point)
    fun label hlabel c hc => (h label hlabel c hc).1

/-- The ASCII form of a name has only characters that stay as they are. -/
theorem inName_of_toAscii? (h : toAscii? s = some out) : ∀ c ∈ out, InName c := by
  obtain ⟨labels, written, -, hsound, -, hwritten, rfl⟩ := exists_labels h
  refine inName_joinLabels fun t ht => ?_
  obtain ⟨label, hlabel, hwrite⟩ := exists_of_mem_mapM hwritten t ht
  exact inName_of_writeLabel? (hsound label hlabel) hwrite

/-- What was put together from labels is read as these labels. -/
theorem toAscii?_joinLabels {labels written : List (List Char)} (hne : labels ≠ [])
    (hsound : ∀ label ∈ labels, isSound label = true)
    (hturns : ¬ (labels.any (·.any turns) = true ∧ ¬ labels.all readsEitherWay = true))
    (hwritten : labels.mapM writeLabel? = some written) :
    toAscii? (joinLabels written) = some (joinLabels written) := by
  have hchars : ∀ label ∈ written, ∀ c ∈ label, InName c ∧ c ≠ '.' := by
    intro t ht
    obtain ⟨label, hlabel, hwrite⟩ := exists_of_mem_mapM hwritten t ht
    exact inName_of_writeLabel? (hsound label hlabel) hwrite
  have hnil : written ≠ [] := by
    rintro rfl
    exact hne (List.length_eq_zero_iff.mp (length_of_mapM hwritten).symm)
  have hsplit : (joinLabels written).splitOn '.' = written :=
    List.splitOn_intercalate _ (fun t ht hpoint => (hchars t ht '.' hpoint).2 rfl) hnil
  have hread : written.mapM readLabel? = some labels :=
    mapM_of_mapM hwritten fun label hlabel t ht =>
      readLabel?_of_writeLabel? (hsound label hlabel) ht
  have hname := inName_joinLabels hchars
  rw [toAscii?, flatMap_changed hname, composed_of_inName hname, hsplit, hread]
  dsimp only
  rw [if_neg hturns, hwritten, Option.map_some]

/-- **The ASCII form of a name is its own ASCII form.** -/
theorem toAscii?_of_toAscii? (h : toAscii? s = some out) : toAscii? out = some out := by
  obtain ⟨labels, written, hne, hsound, hturns, hwritten, rfl⟩ := exists_labels h
  exact toAscii?_joinLabels hne hsound hturns hwritten

/-- Labels in characters that stay as they are make a name that is its own ASCII form. -/
theorem toAscii?_of_inName (labels : List (List Char)) (hne : labels ≠ [])
    (h : ∀ label ∈ labels, ∀ c ∈ label, InName c ∧ c ≠ '.')
    (hbegins : ∀ label ∈ labels, spelledPrefix.isPrefixOf label = false) :
    toAscii? (joinLabels labels) = some (joinLabels labels) := by
  refine toAscii?_joinLabels hne (fun label hl => isSound_of_inName (h label hl) (hbegins label hl))
    ?_ (mapM_eq_some_self fun label hl => ?_)
  · rintro ⟨hturns, -⟩
    obtain ⟨label, hl, hany⟩ := List.any_eq_true.mp hturns
    obtain ⟨c, hc, hturn⟩ := List.any_eq_true.mp hany
    rw [turns_eq_false (h label hl c hc).1.lt] at hturn
    cases hturn
  · exact if_pos (List.all_eq_true.mpr fun c hc => decide_eq_true (h label hl c hc).1.lt)

end TaintClient.Domain

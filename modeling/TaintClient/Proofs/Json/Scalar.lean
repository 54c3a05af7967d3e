/-
  Scalars that are stepped over: words, numbers and texts. Each is shown both ways: what is stepped
  over is what the grammar says, and what the grammar says is stepped over. A number has to end
  where it does, since its reader takes all that goes on with it.
-/
import Mathlib.Tactic.SplitIfs
import TaintClient.Proofs.Json.Grammar
import TaintClient.Proofs.Json.Spelling

namespace TaintClient.Json

variable {b : Bracket} {c d : Cursor} {s t u v w : List Char} {x : Char}

/-! ## Blanks, words and digits -/

theorem Cursor.exists_skipWhile (f : Char → Bool) (s : List Char) (p : Place) :
    ∃ u, (∀ x ∈ u, f x = true) ∧ s = u ++ (skipWhile f s p).rest ∧
      ∀ x, (skipWhile f s p).rest.head? = some x → f x = false := by
  induction s generalizing p with
  | nil => exact ⟨[], by simp, rfl, by simp [skipWhile]⟩
  | cons x s ih =>
    rw [skipWhile]
    cases hx : f x with
    | true =>
      obtain ⟨u, hu, hs, hhead⟩ := ih (p.after x)
      refine ⟨x :: u, ?_, congrArg (x :: ·) hs, hhead⟩
      intro y hy
      obtain rfl | hy := List.mem_cons.mp hy
      · exact hx
      · exact hu y hy
    | false =>
      refine ⟨[], by simp, rfl, ?_⟩
      intro y hy
      obtain rfl := Option.some_inj.mp hy
      exact hx

/-- Blanks are stepped over up to what is none. -/
theorem Cursor.exists_skipSpace (c : Cursor) :
    ∃ u, Blank u ∧ c.rest = u ++ c.skipSpace.rest ∧
      ∀ x, c.skipSpace.rest.head? = some x → isSpace x = false :=
  exists_skipWhile isSpace c.rest c.place

theorem Cursor.skipSpace_append (hu : Blank u)
    (ht : ∀ x, t.head? = some x → isSpace x = false) (p : Place) :
    ∃ q, skipSpace ⟨u ++ t, p⟩ = ⟨t, q⟩ := skipWhile_append isSpace hu ht p

theorem Cursor.skipSpace_idem (c : Cursor) : c.skipSpace.skipSpace = c.skipSpace := by
  obtain ⟨_, _, _, hhead⟩ := exists_skipSpace c
  generalize c.skipSpace = d at hhead
  obtain ⟨s, p⟩ := d
  cases s with
  | nil => rfl
  | cons x s => exact skipSpace_cons (hhead x rfl) s p

theorem exists_expectWord {c d : Cursor} (h : expectWord w c = .ok d) : c.rest = w ++ d.rest := by
  induction w generalizing c with
  | nil =>
    cases h
    rfl
  | cons x w ih =>
    rw [expectWord] at h
    split at h
    · cases h
    · rename_i y ys hy
      split at h
      · rename_i hyx
        subst hyx
        rw [hy, List.cons_append, ← ih h, Cursor.next, hy]
      · cases h

theorem passes_expectWord (w t : List Char) : Passes (expectWord w) (w ++ t) t := by
  induction w with
  | nil => exact fun p => ⟨p, rfl⟩
  | cons x w ih =>
    intro p
    obtain ⟨q, hq⟩ := ih (p.after x)
    refine ⟨q, ?_⟩
    simp only [List.cons_append, expectWord, if_true, Cursor.next_cons, hq]

/-- Digits are stepped over up to what is none. -/
theorem Cursor.exists_skipDigits (c : Cursor) :
    (∀ x ∈ c.digits, x.isDigit = true) ∧ c.rest = c.digits ++ c.skipDigits.rest := by
  obtain ⟨u, hu, hs, hhead⟩ := exists_skipWhile Char.isDigit c.rest c.place
  have hs : c.rest = u ++ c.skipDigits.rest := hs
  have hdigits : c.digits = u := by
    rw [digits, hs]
    exact digits_append hu hhead c.place
  rw [hdigits]
  exact ⟨hu, hs⟩

theorem Cursor.skipDigits_append (hs : ∀ x ∈ s, x.isDigit = true)
    (ht : ∀ x, t.head? = some x → x.isDigit = false) (p : Place) :
    ∃ q, skipDigits ⟨s ++ t, p⟩ = ⟨t, q⟩ := skipWhile_append Char.isDigit hs ht p

/-! ## Numbers -/

/-- Steps over an exponent, if there is one. -/
def skipExponent? (c : Cursor) : Except Fault Cursor :=
  if atExponent c then skipExponent c else .ok c

/-- Steps over a fraction and an exponent, if they are there. -/
def skipFraction? (c : Cursor) : Except Fault Cursor :=
  if c.rest.head? = some '.' then
    match c.next.digits with
    | [] => .error ⟨.badNumber, c.next.peekPlace⟩
    | _ => skipExponent? c.next.skipDigits
  else skipExponent? c

theorem atExponent_iff : atExponent c = true ↔
    c.rest.head? = some 'e' ∨ c.rest.head? = some 'E' := by
  simp [atExponent]

/-- Steps over the sign of an exponent, if there is one. -/
def Cursor.skipSign (c : Cursor) : Cursor :=
  if c.rest.head? = some '-' ∨ c.rest.head? = some '+' then c.next else c

theorem Cursor.exists_skipSign (c : Cursor) :
    ∃ sign, ExponentSign sign ∧ c.rest = sign ++ c.skipSign.rest := by
  unfold skipSign
  split
  · rename_i h
    obtain h | h := h
    · exact ⟨['-'], Or.inr (Or.inl rfl), rest_next h⟩
    · exact ⟨['+'], Or.inr (Or.inr rfl), rest_next h⟩
  · exact ⟨[], Or.inl rfl, rfl⟩

theorem Cursor.skipSign_append {sign : List Char} (h : ExponentSign sign)
    (ht : Begins (·.isDigit = true) t) (p : Place) : ∃ q, skipSign ⟨sign ++ t, p⟩ = ⟨t, q⟩ := by
  obtain rfl | rfl | rfl := h
  · obtain ⟨x, u, rfl, hx⟩ := ht
    refine ⟨p, if_neg ?_⟩
    rintro (h | h) <;> (obtain rfl := Option.some_inj.mp h; cases hx)
  · exact ⟨_, rfl⟩
  · exact ⟨_, rfl⟩

theorem skipExponent_eq (c : Cursor) : skipExponent c =
    match c.next.skipSign.digits with
    | [] => .error ⟨.badNumber, c.next.skipSign.peekPlace⟩
    | _ => .ok c.next.skipSign.skipDigits := rfl

theorem exists_skipExponent (hc : atExponent c = true) (h : skipExponent c = .ok d) :
    ∃ v, Exponent v ∧ c.rest = v ++ d.rest := by
  obtain ⟨e, hhead, he⟩ : ∃ e, c.rest.head? = some e ∧ (e = 'e' ∨ e = 'E') := by
    obtain h | h := atExponent_iff.mp hc
    · exact ⟨_, h, Or.inl rfl⟩
    · exact ⟨_, h, Or.inr rfl⟩
  obtain ⟨sign, hsign, hrest⟩ := Cursor.exists_skipSign c.next
  obtain ⟨hdigits, hds⟩ := Cursor.exists_skipDigits c.next.skipSign
  rw [skipExponent_eq] at h
  split at h
  · cases h
  · rename_i hne
    cases h
    refine ⟨e :: (sign ++ c.next.skipSign.digits), .some he hsign ⟨hdigits, hne⟩, ?_⟩
    rw [Cursor.rest_next hhead, hrest, List.cons_append, List.append_assoc, ← hds]

theorem passes_skipExponent {e : Char} {sign ds : List Char} (hsign : ExponentSign sign)
    (hds : Digits ds) (ht : ∀ x, t.head? = some x → x.isDigit = false) :
    Passes skipExponent (e :: (sign ++ ds) ++ t) t := by
  intro p
  have hbegins : Begins (·.isDigit = true) (ds ++ t) := hds.begins.append t
  obtain ⟨q, hq⟩ := Cursor.skipSign_append hsign hbegins (p.after e)
  obtain ⟨r, hr⟩ := Cursor.skipDigits_append hds.all ht q
  refine ⟨r, ?_⟩
  rw [skipExponent_eq, List.cons_append, Cursor.next_cons, List.append_assoc, hq,
    digits_append hds.all ht q, hr]
  split
  · exact absurd rfl hds.nonempty
  · rfl

theorem exists_skipExponent? (h : skipExponent? c = .ok d) :
    ∃ v, Exponent v ∧ c.rest = v ++ d.rest := by
  unfold skipExponent? at h
  split at h
  · exact exists_skipExponent ‹_› h
  · cases h
    exact ⟨[], .none, rfl⟩

theorem passes_skipExponent? (hv : Exponent v) (ht : EndsNumber t) :
    Passes skipExponent? (v ++ t) t := by
  intro p
  cases hv with
  | none =>
    have hexp : atExponent ⟨t, p⟩ = false := by
      rw [← Bool.not_eq_true, atExponent_iff]
      rintro (h | h)
      · exact (ht _ h).2.2.1 rfl
      · exact (ht _ h).2.2.2 rfl
    exact ⟨p, by rw [List.nil_append, skipExponent?, hexp, if_neg Bool.false_ne_true]⟩
  | some he hsign hds =>
    obtain ⟨q, hq⟩ := passes_skipExponent hsign hds (fun x hx => (ht x hx).1) p
    refine ⟨q, ?_⟩
    rw [skipExponent?, if_pos, hq]
    rw [atExponent_iff]
    obtain rfl | rfl := he
    · exact Or.inl rfl
    · exact Or.inr rfl

theorem exists_skipFraction? (h : skipFraction? c = .ok d) :
    ∃ v w, Fraction v ∧ Exponent w ∧ c.rest = v ++ (w ++ d.rest) := by
  unfold skipFraction? at h
  split at h
  · rename_i hdot
    obtain ⟨hdigits, hds⟩ := Cursor.exists_skipDigits c.next
    split at h
    · cases h
    · rename_i hne
      obtain ⟨w, hw, hrest⟩ := exists_skipExponent? h
      refine ⟨'.' :: c.next.digits, w, .some ⟨hdigits, hne⟩, hw, ?_⟩
      rw [Cursor.rest_next hdot, hds, hrest, List.cons_append]
  · obtain ⟨w, hw, hrest⟩ := exists_skipExponent? h
    exact ⟨[], w, .none, hw, hrest⟩

/-- A fraction or an exponent ends the digits in front of it. -/
theorem isDigit_head?_exponent (hw : Exponent w) (ht : EndsNumber t) :
    ∀ x, (w ++ t).head? = some x → x.isDigit = false ∧ x ≠ '.' := by
  intro x hx
  cases hw with
  | none => exact ⟨(ht x hx).1, (ht x hx).2.1⟩
  | some he _ _ =>
    obtain rfl := Option.some_inj.mp hx
    obtain rfl | rfl := he <;> decide

theorem passes_skipFraction? (hv : Fraction v) (hw : Exponent w) (ht : EndsNumber t) :
    Passes skipFraction? (v ++ (w ++ t)) t := by
  intro p
  have hhead := isDigit_head?_exponent hw ht
  cases hv with
  | none =>
    obtain ⟨q, hq⟩ := passes_skipExponent? hw ht p
    refine ⟨q, ?_⟩
    rw [List.nil_append, skipFraction?, if_neg (fun h => (hhead _ h).2 rfl), hq]
  | @some ds hds =>
    have hdigit : ∀ x, (w ++ t).head? = some x → x.isDigit = false := fun x hx => (hhead x hx).1
    obtain ⟨q, hq⟩ := Cursor.skipDigits_append hds.all hdigit (p.after '.')
    obtain ⟨r, hr⟩ := passes_skipExponent? hw ht q
    refine ⟨r, ?_⟩
    rw [List.cons_append, skipFraction?, List.head?_cons, if_pos rfl, Cursor.next_cons,
      digits_append hds.all hdigit, hq, hr]
    split
    · exact absurd rfl hds.nonempty
    · rfl

theorem skipNumber_eq (x : Char) (s : List Char) (p : Place) :
    skipNumber ⟨x :: s, p⟩ =
      if ¬ x.isDigit then .error ⟨.badNumber, Cursor.peekPlace ⟨x :: s, p⟩⟩
      else if x = '0' ∧ (s.head?.any Char.isDigit) then
        .error ⟨.badNumber, Cursor.peekPlace ⟨s, p.after x⟩⟩
      else skipFraction? (Cursor.skipDigits ⟨x :: s, p⟩) := rfl

/-- Digits that are not refused for a zero too many write a number. -/
theorem numeral_digits (hx : x.isDigit = true)
    (hzero : ¬ (x = '0' ∧ (s.head?.any Char.isDigit) = true)) (p : Place) :
    Numeral (Cursor.digits ⟨x :: s, p⟩) := by
  have hcons : Cursor.digits ⟨x :: s, p⟩ = x :: s.takeWhile Char.isDigit := by
    rw [Cursor.digits, List.takeWhile_cons, if_pos hx]
  refine ⟨(Cursor.exists_skipDigits _).1, by simp [hcons], fun h => ?_⟩
  rw [hcons] at h ⊢
  obtain rfl := Option.some_inj.mp h
  cases s with
  | nil => rfl
  | cons y s =>
    have hy : y.isDigit = false := by simpa using hzero
    rw [List.tail_cons, List.takeWhile_cons, hy]
    rfl

theorem exists_skipNumber (h : skipNumber c = .ok d) : ∃ v, Magnitude v ∧ c.rest = v ++ d.rest := by
  obtain ⟨s, p⟩ := c
  cases s with
  | nil => cases h
  | cons x s =>
    rw [skipNumber_eq] at h
    split at h
    · cases h
    · rename_i hx
      split at h
      · cases h
      · rename_i hzero
        obtain ⟨v, w, hv, hw, hrest⟩ := exists_skipFraction? h
        refine ⟨_, ⟨numeral_digits (Decidable.not_not.mp hx) hzero p, hv, hw⟩, ?_⟩
        rw [(Cursor.exists_skipDigits ⟨x :: s, p⟩).2, hrest, List.append_assoc, List.append_assoc]

theorem passes_skipNumber (hv : Magnitude v) (ht : EndsNumber t) :
    Passes skipNumber (v ++ t) t := by
  obtain ⟨hwhole, hf, he⟩ := hv
  rename_i whole fraction exponent
  intro p
  have hdigit : ∀ x, (fraction ++ (exponent ++ t)).head? = some x → x.isDigit = false := by
    intro x hx
    cases hf with
    | none => exact (isDigit_head?_exponent he ht x hx).1
    | some hds =>
      obtain rfl := Option.some_inj.mp hx
      decide
  obtain ⟨q, hq⟩ := Cursor.skipDigits_append hwhole.digits hdigit p
  obtain ⟨r, hr⟩ := passes_skipFraction? hf he ht q
  refine ⟨r, ?_⟩
  rw [List.append_assoc, List.append_assoc]
  obtain ⟨x, u, hxu, hx⟩ := hwhole.begins
  subst hxu
  rw [List.cons_append] at hq ⊢
  rw [skipNumber_eq, if_neg (Decidable.not_not.mpr hx), if_neg (hwhole.zero_alone hdigit), hq, hr]

/-! ## Texts -/

theorem exists_skipEscape (h : skipEscape c = .ok d) :
    ∃ v, LooseChar ('\\' :: v) ∧ c.rest = v ++ d.rest := by
  obtain ⟨s, p⟩ := c
  cases s with
  | nil => cases h
  | cons x s =>
    simp only [skipEscape, Cursor.next_cons] at h
    split at h
    · rename_i hx
      subst hx
      obtain ⟨⟨n, e⟩, hread, rfl⟩ := left_map h
      obtain ⟨i, j, k, l, hn, hrest⟩ := exists_readHexFour hread
      exact ⟨['u', i, j, k, l], .number hn, congrArg ('u' :: ·) hrest⟩
    · split at h
      · rename_i y hy
        cases h
        exact ⟨[x], .short hy, rfl⟩
      · cases h

theorem exists_skipText (h : skipText c = .ok d) :
    ∃ w, LooseText w ∧ c.rest = w ++ '"' :: d.rest := by
  fun_induction skipText c generalizing d with
  | case1 => cases h
  | case2 c xs hx =>
    cases h
    exact ⟨[], .nil, by rw [Cursor.next, hx]; rfl⟩
  | case3 => cases h
  | case4 c xs e he hx _ ih =>
    obtain ⟨v, hv, hrest⟩ := exists_skipEscape he
    obtain ⟨w, hw, hd⟩ := ih h
    refine ⟨_, .cons hv hw, ?_⟩
    rw [Cursor.rest_next (congrArg List.head? hx), hrest, hd]
    simp
  | case5 => cases h
  | case6 c x xs hx hq hb hc ih =>
    obtain ⟨w, hw, hd⟩ := ih h
    refine ⟨_, .cons (.plain (Nat.not_lt.mp hc) hq hb) hw, ?_⟩
    rw [Cursor.rest_next (congrArg List.head? hx), hd]
    rfl

/-- One step over a text. -/
theorem skipText_cons (x : Char) (s : List Char) (p : Place) :
    skipText ⟨x :: s, p⟩ =
      if x = '"' then .ok ⟨s, p.after x⟩
      else if x = '\\' then skipEscape ⟨s, p.after x⟩ >>= skipText
      else if x.toNat < 0x20 then .error ⟨.controlCharacter, p⟩
      else skipText ⟨s, p.after x⟩ := by
  rw [skipText]
  simp only [Cursor.next_cons]
  cases skipEscape ⟨s, p.after x⟩ <;> rfl

/-- However a character is written, it is stepped over before the text behind it. -/
theorem LooseChar.passes_append (hv : LooseChar v) (ht : Passes skipText t u) :
    Passes skipText (v ++ t) u := by
  intro p
  cases hv with
  | @plain c hc hq hb =>
    obtain ⟨q, hr⟩ := ht (p.after c)
    refine ⟨q, ?_⟩
    rw [List.singleton_append, skipText_cons, if_neg hq, if_neg hb, if_neg (Nat.not_lt.mpr hc), hr]
  | @short x c hx =>
    have hu : x ≠ 'u' := by
      rintro rfl
      cases hx
    obtain ⟨q, hr⟩ := ht ((p.after '\\').after x)
    refine ⟨q, ?_⟩
    rw [List.cons_append, List.singleton_append, skipText_cons, if_neg (by decide), if_pos rfl,
      ← hr]
    simp only [skipEscape, hu, if_false, hx, Cursor.next_cons]
    rfl
  | @number i j k l n hn =>
    obtain ⟨r, hread⟩ := reads_readHexFour hn t ((p.after '\\').after 'u')
    obtain ⟨q, hr⟩ := ht r
    refine ⟨q, ?_⟩
    rw [List.cons_append, skipText_cons, if_neg (by decide), if_pos rfl, ← hr]
    simp only [skipEscape, List.cons_append, List.nil_append, if_true, Cursor.next_cons, hread]
    rfl

theorem passes_skipText (hw : LooseText w) (t : List Char) :
    Passes skipText (w ++ '"' :: t) t := by
  induction hw with
  | nil => exact fun p => ⟨_, by rw [List.nil_append, skipText_cons, if_pos rfl]⟩
  | cons hv _ ih =>
    rw [List.append_assoc]
    exact hv.passes_append ih

/-! ## Scalars -/

/-- What is stepped over is a scalar, or the sign that opens a bracket. -/
theorem skipScalar_cases {o : Option Bracket} (h : skipScalar c = .ok (o, d)) :
    (o = none ∧ ∃ v, Scalar v ∧ c.rest = v ++ d.rest) ∨
      ∃ b : Bracket, o = some b ∧ c.rest = b.opening :: d.rest := by
  obtain ⟨s, p⟩ := c
  cases s with
  | nil => cases h
  | cons x s =>
    simp only [skipScalar, Cursor.next_cons] at h
    split_ifs at h with hn ht hf hminus hdigit hquote hlist hobject
    · obtain ⟨e, he, hd⟩ := left_map h
      cases hd
      exact Or.inl ⟨rfl, _, .null, hn ▸ congrArg ('n' :: ·) (exists_expectWord he)⟩
    · obtain ⟨e, he, hd⟩ := left_map h
      cases hd
      exact Or.inl ⟨rfl, _, .true, ht ▸ congrArg ('t' :: ·) (exists_expectWord he)⟩
    · obtain ⟨e, he, hd⟩ := left_map h
      cases hd
      exact Or.inl ⟨rfl, _, .false, hf ▸ congrArg ('f' :: ·) (exists_expectWord he)⟩
    · obtain ⟨e, he, hd⟩ := left_map h
      cases hd
      obtain ⟨v, hv, hrest⟩ := exists_skipNumber he
      exact Or.inl ⟨rfl, _, .negative hv, hminus ▸ congrArg ('-' :: ·) hrest⟩
    · obtain ⟨e, he, hd⟩ := left_map h
      cases hd
      obtain ⟨v, hv, hrest⟩ := exists_skipNumber he
      exact Or.inl ⟨rfl, _, .positive hv, hrest⟩
    · obtain ⟨e, he, hd⟩ := left_map h
      cases hd
      obtain ⟨w, hw, hrest⟩ := exists_skipText he
      refine Or.inl ⟨rfl, _, .text hw, ?_⟩
      rw [List.cons_append, List.append_assoc]
      exact hquote ▸ congrArg ('"' :: ·) hrest
    · cases h
      exact Or.inr ⟨.list, rfl, by rw [hlist]; rfl⟩
    · cases h
      exact Or.inr ⟨.object, rfl, by rw [hobject]; rfl⟩

theorem reads_skipScalar_bracket (b : Bracket) (t : List Char) :
    Reads skipScalar (b.opening :: t) (some b) t := fun p =>
  ⟨p.after b.opening, by cases b <;> rfl⟩

theorem reads_skipScalar (hv : Scalar v) (ht : EndsNumber t) :
    Reads skipScalar (v ++ t) none t := by
  intro p
  cases hv with
  | null =>
    obtain ⟨q, hq⟩ := passes_expectWord ['u', 'l', 'l'] t (p.after 'n')
    exact ⟨q, congrArg ((none, ·) <$> ·) hq⟩
  | true =>
    obtain ⟨q, hq⟩ := passes_expectWord ['r', 'u', 'e'] t (p.after 't')
    exact ⟨q, congrArg ((none, ·) <$> ·) hq⟩
  | false =>
    obtain ⟨q, hq⟩ := passes_expectWord ['a', 'l', 's', 'e'] t (p.after 'f')
    exact ⟨q, congrArg ((none, ·) <$> ·) hq⟩
  | @positive v hv =>
    obtain ⟨q, hq⟩ := passes_skipNumber hv ht p
    refine ⟨q, ?_⟩
    obtain ⟨x, u, rfl, hx⟩ := hv.begins
    have hne : ∀ y : Char, y.isDigit = false → x ≠ y := by
      rintro y hy rfl
      rw [hx] at hy
      cases hy
    rw [List.cons_append] at hq ⊢
    simp only [skipScalar, hne 'n' rfl, hne 't' rfl, hne 'f' rfl, hne '-' rfl, hx, if_false,
      if_true, hq]
    rfl
  | @negative v hv =>
    obtain ⟨q, hq⟩ := passes_skipNumber hv ht (p.after '-')
    exact ⟨q, congrArg ((none, ·) <$> ·) hq⟩
  | @text w hw =>
    obtain ⟨q, hq⟩ := passes_skipText hw t (p.after '"')
    refine ⟨q, ?_⟩
    rw [List.cons_append, List.append_assoc, List.singleton_append]
    exact congrArg ((none, ·) <$> ·) hq

end TaintClient.Json

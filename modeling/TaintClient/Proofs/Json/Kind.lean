/-
  Values of a known kind: texts, integers of 64 bits, and either of them or `null`. For each kind
  it is said how its values are written, and the reader of the kind recognizes them
  (`Recognizes`): it reads whatever is written so, blanks in front of it included, and what it
  reads is written so. Numbers with a fraction or an exponent are no integers, and neither is a
  zero with a minus sign.
-/
import TaintClient.Proofs.Json.Scalar

namespace TaintClient.Json

variable {α : Type} {c d : Cursor} {s t u v : List Char}

/-! ## How values are written -/

/-- How a text is written: between two marks, each of its characters in a way of its own. -/
inductive IsText (s : List Char) : List Char → Prop
  | mk {w : List Char} (hw : Spelling s w) : IsText s ('"' :: (w ++ ['"']))

/-- How an integer of 64 bits is written: in digits, behind a minus sign where it is below zero. -/
inductive IsInteger (n : Int) : List Char → Prop
  | natural {s : List Char} (hs : Numeral s) (hn : n = Nat.ofDigitChars 10 s 0)
    (hlt : n < 9223372036854775808) : IsInteger n s
  | negative {s : List Char} (hs : Numeral s) (hn : n = -Nat.ofDigitChars 10 s 0) (hneg : n < 0)
    (hle : -9223372036854775808 ≤ n) : IsInteger n ('-' :: s)

/-- How a value is written that may be missing: as `null` where it is. -/
inductive Nullable (is : α → List Char → Prop) : Option α → List Char → Prop
  | null : Nullable is none ['n', 'u', 'l', 'l']
  | value {x : α} {v : List Char} (hv : is x v) : Nullable is (some x) v

/-! ### They are values -/

theorem CharSpelling.loose {c : Char} (h : CharSpelling c v) :
    LooseText v := by
  cases h with
  | plain hc hq hb => exact .cons (.plain hc hq hb) .nil
  | short hx => exact .cons (.short hx) .nil
  | number hn => exact .cons (.number hn) .nil
  | pair hn hm _ _ _ => exact .cons (.number hn) (.cons (.number hm) .nil)

theorem LooseText.append (hv : LooseText v) (hu : LooseText u) : LooseText (v ++ u) := by
  induction hv with
  | nil => exact hu
  | cons hv _ ih =>
    rw [List.append_assoc]
    exact .cons hv ih

theorem Spelling.loose (h : Spelling s v) : LooseText v := by
  induction h with
  | nil => exact .nil
  | cons hc _ ih => exact hc.loose.append ih

theorem IsText.value (h : IsText s v) : Value v := by
  obtain ⟨hw⟩ := h
  exact .scalar (.text hw.loose)

theorem Numeral.magnitude (hs : Numeral s) : Magnitude s := by
  have h : Magnitude (s ++ ([] ++ [])) := ⟨hs, .none, .none⟩
  rwa [List.nil_append, List.append_nil] at h

theorem IsInteger.value {n : Int} (h : IsInteger n v) : Value v := by
  cases h with
  | natural hs _ _ => exact .scalar (.positive hs.magnitude)
  | negative hs _ _ _ => exact .scalar (.negative hs.magnitude)

theorem Nullable.value_of {is : α → List Char → Prop} (his : ∀ x v, is x v → Value v)
    {o : Option α} (h : Nullable is o v) : Value v := by
  cases h with
  | null => exact .scalar .null
  | value hv => exact his _ _ hv

/-! ## Readers of a kind -/

/-- Whether a reader reads what is written so, and nothing else. A value has to end where it does,
and it cannot be taken for blanks or for a `null`. -/
structure Recognizes (read : Cursor → Except Fault (α × Cursor)) (is : α → List Char → Prop) :
    Prop where
  sound : ∀ {c x d}, read c = .ok (x, d) →
    ∃ u v, Blank u ∧ is x v ∧ c.rest = u ++ (v ++ d.rest)
  complete : ∀ {x u v t}, is x v → Blank u → EndsNumber t → Reads read (u ++ (v ++ t)) x t
  begins : ∀ {x v}, is x v → Begins (fun y => Cursor.isSpace y = false ∧ y ≠ 'n') v

/-! ## Texts -/

theorem recognizes_readString (expected : String) : Recognizes (readString expected) IsText where
  sound {c s d} h := by
    obtain ⟨u, hu, hrest, _⟩ := Cursor.exists_skipSpace c
    simp only [readString] at h
    split at h
    · cases h
    · rename_i x xs hx
      split at h
      · rename_i hquote
        obtain ⟨w, hw, hread⟩ := exists_readText h
        refine ⟨u, _, hu, .mk hw, ?_⟩
        rw [hrest, Cursor.rest_next (congrArg List.head? hx), hquote, hread]
        simp
      · cases h
  complete {s u v t} hv hu _ := by
    obtain ⟨hw⟩ := hv
    rename_i w
    intro p
    obtain ⟨q, hq⟩ := Cursor.skipSpace_append hu (t := '"' :: (w ++ '"' :: t))
      (by simp [Cursor.isSpace]) p
    obtain ⟨r, hr⟩ := reads_readText hw t (q.after '"')
    refine ⟨r, ?_⟩
    rw [List.cons_append, List.append_assoc, List.singleton_append]
    simp only [readString, hq, if_true, Cursor.next_cons, hr]
  begins {s v} hv := by
    obtain ⟨_⟩ := hv
    exact ⟨_, _, rfl, by decide⟩

/-! ## Integers -/

/-- Where no digit is left out, the digits are those of the number. -/
theorem eq_of_accumulate {m n : Nat} (h : accumulate m s = (n, 0)) :
    n = Nat.ofDigitChars 10 s m := by
  induction s generalizing m with
  | nil =>
    cases h
    rfl
  | cons x s ih =>
    rw [accumulate] at h
    split at h
    · rw [Nat.ofDigitChars_cons, Nat.mul_comm 10 m]
      exact ih h
    · cases h

/-- Whether a number is no integer. -/
def Number.IsFloat (n : Number) : Prop := ∃ x, n = .float x

theorem isFloat_floatOfParts {positive : Bool} {significand : Nat} {e : Int} {n : Number}
    (h : floatOfParts positive significand e c = .ok (n, d)) : n.IsFloat := by
  unfold floatOfParts at h
  split at h
  · cases h
  · cases h
    exact ⟨_, rfl⟩

theorem isFloat_readExponent {positive : Bool} {significand : Nat} {start : Int} {n : Number}
    (h : readExponent positive significand start c = .ok (n, d)) : n.IsFloat := by
  simp only [readExponent] at h
  split at h
  · cases h
  · split at h
    · split at h
      · exact isFloat_floatOfParts h
      · split at h
        · cases h
        · cases h
          exact ⟨_, rfl⟩
    · cases h

theorem isFloat_readFraction {positive : Bool} {significand dropped : Nat} {n : Number}
    (h : readFraction positive significand dropped c = .ok (n, d)) : n.IsFloat := by
  simp only [readFraction] at h
  split at h
  · cases h
  · split at h
    · exact isFloat_readExponent h
    · exact isFloat_floatOfParts h

/-- A number that is read is a float, or its digits are a numeral and all of it. -/
theorem exists_readNumber {positive : Bool} {n : Number}
    (h : readNumber positive c = .ok (n, d)) :
    n.IsFloat ∨ ∃ s, Numeral s ∧ c.rest = s ++ d.rest ∧
      if positive then n = .natural (Nat.ofDigitChars 10 s 0)
      else 1 ≤ Nat.ofDigitChars 10 s 0 ∧ Nat.ofDigitChars 10 s 0 ≤ 9223372036854775808 ∧
        n = .negative (-Nat.ofDigitChars 10 s 0) := by
  obtain ⟨s, p⟩ := c
  cases s with
  | nil => cases h
  | cons x s =>
    simp only [readNumber] at h
    split at h
    · cases h
    · rename_i hx
      split at h
      · cases h
      · rename_i hzero
        have hs := numeral_digits (Decidable.not_not.mp hx) hzero p
        have hrest := (Cursor.exists_skipDigits ⟨x :: s, p⟩).2
        generalize hacc : accumulate 0 (Cursor.digits ⟨x :: s, p⟩) = r at h
        obtain ⟨m, dropped⟩ := r
        dsimp only at h
        split at h
        · exact .inl (isFloat_readFraction h)
        split at h
        · exact .inl (isFloat_readExponent h)
        split at h
        · exact .inl (isFloat_floatOfParts h)
        rename_i hdropped
        obtain rfl : dropped = 0 := Decidable.not_not.mp hdropped
        obtain rfl := eq_of_accumulate hacc
        split at h
        · rename_i hpos
          cases h
          refine .inr ⟨_, hs, hrest, ?_⟩
          rw [if_pos hpos]
        · rename_i hneg
          split at h
          · rename_i hrange
            cases h
            refine .inr ⟨_, hs, hrest, ?_⟩
            rw [if_neg hneg]
            exact ⟨hrange.1, hrange.2, rfl⟩
          · cases h
            exact .inl ⟨_, rfl⟩

theorem sound_readInteger {n : Int} (h : readInteger c = .ok (n, d)) :
    ∃ u v, Blank u ∧ IsInteger n v ∧ c.rest = u ++ (v ++ d.rest) := by
  obtain ⟨u, hu, hrest, _⟩ := Cursor.exists_skipSpace c
  simp only [readInteger] at h
  split at h
  · cases h
  · rename_i x xs hx
    have hnext := Cursor.rest_next (congrArg List.head? hx)
    split at h
    · rename_i hminus
      split at h
      · cases h
      · rename_i m e hread
        obtain ⟨_, hf⟩ | ⟨s, _, _, hs⟩ := exists_readNumber hread
        · cases hf
        · rw [if_neg Bool.false_ne_true] at hs
          cases hs.2.2
      · rename_i m e hread
        cases h
        obtain ⟨_, hf⟩ | ⟨s, hs, hd, hvalue⟩ := exists_readNumber hread
        · cases hf
        · rw [if_neg Bool.false_ne_true] at hvalue
          obtain ⟨hlo, hhi, hm⟩ := hvalue
          cases hm
          refine ⟨u, '-' :: s, hu, .negative hs rfl (by omega) (by omega), ?_⟩
          rw [hrest, hnext, hminus, hd]
          rfl
      · cases h
    · split at h
      · split at h
        · cases h
        · rename_i m e hread
          split at h
          · rename_i hlt
            cases h
            obtain ⟨_, hf⟩ | ⟨s, hs, hd, hvalue⟩ := exists_readNumber hread
            · cases hf
            · rw [if_pos rfl] at hvalue
              cases hvalue
              exact ⟨u, s, hu, .natural hs rfl (by omega), hrest.trans (congrArg (u ++ ·) hd)⟩
          · cases h
        · rename_i m e hread
          obtain ⟨_, hf⟩ | ⟨s, _, _, hs⟩ := exists_readNumber hread
          · cases hf
          · rw [if_pos rfl] at hs
            cases hs
        · cases h
      · cases h

theorem complete_readInteger {n : Int} (hv : IsInteger n v) (hu : Blank u) (ht : EndsNumber t) :
    Reads readInteger (u ++ (v ++ t)) n t := by
  have hsize : UInt64.size = 18446744073709551616 := rfl
  intro p
  cases hv with
  | natural hs hn hlt =>
    obtain ⟨x, s, rfl, hx⟩ := hs.begins
    obtain ⟨q, hq⟩ := Cursor.skipSpace_append hu (t := (x :: s) ++ t)
      (by simp [isSpace_of_isDigit hx]) p
    obtain ⟨r, hr⟩ := readNumber_numeral true hs ht (by omega) q
    rw [if_pos rfl] at hr
    refine ⟨r, ?_⟩
    have hminus : x ≠ '-' := by
      rintro rfl
      cases hx
    rw [List.cons_append] at hq hr ⊢
    simp only [readInteger, hq, hminus, if_false, hx, if_true, hr]
    rw [if_pos (by omega), hn]
  | @negative s hs hn hneg hle =>
    obtain ⟨q, hq⟩ := Cursor.skipSpace_append hu (t := '-' :: (s ++ t))
      (by simp [Cursor.isSpace]) p
    obtain ⟨r, hr⟩ := readNumber_numeral false hs ht (by omega) (q.after '-')
    rw [if_neg Bool.false_ne_true, if_pos (by omega), ← hn] at hr
    refine ⟨r, ?_⟩
    rw [List.cons_append]
    simp only [readInteger, hq, if_true, Cursor.next_cons, hr]

theorem recognizes_readInteger : Recognizes readInteger IsInteger where
  sound := sound_readInteger
  complete := complete_readInteger
  begins {n v} hv := by
    cases hv with
    | natural hs _ _ =>
      refine hs.begins.mono fun x hx => ⟨isSpace_of_isDigit hx, ?_⟩
      rintro rfl
      cases hx
    | negative _ _ _ _ => exact ⟨_, _, rfl, by decide⟩

/-! ## Values that may be missing -/

variable {read : Cursor → Except Fault (α × Cursor)} {is : α → List Char → Prop}

theorem sound_readOptional (hr : Recognizes read is) {o : Option α}
    (h : readOptional read c = .ok (o, d)) :
    ∃ u v, Blank u ∧ Nullable is o v ∧ c.rest = u ++ (v ++ d.rest) := by
  obtain ⟨u, hu, hrest, _⟩ := Cursor.exists_skipSpace c
  simp only [readOptional] at h
  split at h
  · rename_i hn
    obtain ⟨e, he, h⟩ := bind_eq_ok.mp h
    cases h
    refine ⟨u, _, hu, .null, ?_⟩
    rw [hrest, Cursor.rest_next hn, exists_expectWord he]
    rfl
  · obtain ⟨⟨x, e⟩, hread, h⟩ := bind_eq_ok.mp h
    cases h
    obtain ⟨u', v, hu', hv, hd⟩ := hr.sound hread
    refine ⟨u ++ u', v, hu.append hu', .value hv, ?_⟩
    rw [hrest, hd, List.append_assoc]

theorem complete_readOptional (hr : Recognizes read is) {o : Option α} (hv : Nullable is o v)
    (hu : Blank u) (ht : EndsNumber t) : Reads (readOptional read) (u ++ (v ++ t)) o t := by
  intro p
  cases hv with
  | null =>
    obtain ⟨q, hq⟩ := Cursor.skipSpace_append hu (t := 'n' :: ("ull".toList ++ t))
      (by simp [Cursor.isSpace]) p
    obtain ⟨r, hr⟩ := passes_expectWord "ull".toList t (q.after 'n')
    refine ⟨r, ?_⟩
    have hq : Cursor.skipSpace ⟨u ++ (['n', 'u', 'l', 'l'] ++ t), p⟩ = _ := hq
    rw [readOptional]
    simp only [hq, List.head?_cons, if_true, Cursor.next_cons, hr]
    rfl
  | value hv =>
    obtain ⟨x, s, rfl, hx⟩ := hr.begins hv
    obtain ⟨q, hq⟩ := Cursor.skipSpace_append hu (t := (x :: s) ++ t) (by simp [hx.1]) p
    obtain ⟨r, hread⟩ := hr.complete hv (u := []) (by simp [Blank]) ht q
    refine ⟨r, ?_⟩
    rw [List.nil_append] at hread
    rw [readOptional, hq, if_neg (by simpa using hx.2), hread]
    rfl

end TaintClient.Json

/-
  How texts are written between quotation marks. A character may stand for itself, or be written
  as a short escape, as a number, or as two surrogates; what the writer writes is one of the ways,
  and the reader takes them all. `reads_readText`: whichever ways the characters of a text are
  written, that text is read.
-/
import TaintClient.Proofs.Json.Reads
import TaintClient.Proofs.Text.Digits
import TaintClient.Proofs.Text.Octets

namespace TaintClient.Json

/-- The ways to write a character between quotation marks. -/
inductive CharSpelling (c : Char) : List Char → Prop
  | plain (hc : 0x20 ≤ c.toNat) (hq : c ≠ '"') (hb : c ≠ '\\') : CharSpelling c [c]
  | short {x : Char} (hx : simpleEscape x = some c) : CharSpelling c ['\\', x]
  | number {i j k l : Char} (hn : hexFour [i, j, k, l] = some c.toNat) :
    CharSpelling c ['\\', 'u', i, j, k, l]
  | pair {i j k l i' j' k' l' : Char} {n m : Nat} (hn : hexFour [i, j, k, l] = some n)
    (hm : hexFour [i', j', k', l'] = some m) (high : isHighSurrogate n = true)
    (low : isLowSurrogate m = true)
    (hc : c.toNat = 0x10000 + (n - 0xD800) * 0x400 + (m - 0xDC00)) :
    CharSpelling c ['\\', 'u', i, j, k, l, '\\', 'u', i', j', k', l']

/-- The ways to write a text: each of its characters in a way of its own. -/
inductive Spelling : List Char → List Char → Prop
  | nil : Spelling [] []
  | cons {c : Char} {v s w : List Char} (hc : CharSpelling c v) (hs : Spelling s w) :
    Spelling (c :: s) (v ++ w)

/-! ## Reading -/

theorem reads_readHexFour {i j k l : Char} {n : Nat} (hn : hexFour [i, j, k, l] = some n)
    (t : List Char) : Reads readHexFour (i :: j :: k :: l :: t) n t := by
  intro p
  have hn : hexFour (i :: j :: k :: l :: t) = some n := hn
  have hlong : ¬ ((i :: j :: k :: l :: t).take 4).foldl (fun n x => n + x.utf8Size) 0 < 4 := by
    have := i.utf8Size_pos
    have := j.utf8Size_pos
    have := k.utf8Size_pos
    have := l.utf8Size_pos
    simp only [List.take_succ_cons, List.take_zero, List.foldl_cons, List.foldl_nil]
    omega
  exact ⟨_, by simp only [readHexFour, hlong, if_false, hn]; rfl⟩

/-- A character is no surrogate. -/
theorem not_surrogate (c : Char) :
    isLowSurrogate c.toNat = false ∧ isHighSurrogate c.toNat = false := by
  have hv : c.toNat < 0xD800 ∨ (0xDFFF < c.toNat ∧ c.toNat < 0x110000) := c.valid
  simp only [isLowSurrogate, isHighSurrogate, Bool.and_eq_false_imp, decide_eq_true_eq,
    decide_eq_false_iff_not]
  omega

theorem reads_readEscape_short {x c : Char} (hx : simpleEscape x = some c) (t : List Char) :
    Reads readEscape (x :: t) c t := by
  intro p
  have hu : x ≠ 'u' := by
    rintro rfl
    cases hx
  exact ⟨_, by simp only [readEscape, hu, if_false, hx]; rfl⟩

theorem reads_readEscape_number {i j k l c : Char} (hn : hexFour [i, j, k, l] = some c.toNat)
    (t : List Char) : Reads readEscape ('u' :: i :: j :: k :: l :: t) c t := by
  intro p
  obtain ⟨q, hq⟩ := reads_readHexFour hn t (p.after 'u')
  obtain ⟨hlow, hhigh⟩ := not_surrogate c
  refine ⟨q, ?_⟩
  simp only [readEscape, if_true, Cursor.next_cons, hq, bind, Except.bind, hlow, hhigh,
    Bool.false_eq_true, if_false, Char.ofNat_toNat]

theorem reads_readEscape_pair {i j k l i' j' k' l' c : Char} {n m : Nat}
    (hn : hexFour [i, j, k, l] = some n) (hm : hexFour [i', j', k', l'] = some m)
    (high : isHighSurrogate n = true) (low : isLowSurrogate m = true)
    (hc : c.toNat = 0x10000 + (n - 0xD800) * 0x400 + (m - 0xDC00)) (t : List Char) :
    Reads readEscape ('u' :: i :: j :: k :: l :: '\\' :: 'u' :: i' :: j' :: k' :: l' :: t) c t := by
  intro p
  obtain ⟨q, hq⟩ := reads_readHexFour hn ('\\' :: 'u' :: i' :: j' :: k' :: l' :: t) (p.after 'u')
  obtain ⟨r, hr⟩ := reads_readHexFour hm t ((q.after '\\').after 'u')
  have hlow : isLowSurrogate n = false := by
    simp only [isHighSurrogate, isLowSurrogate, Bool.and_eq_true, decide_eq_true_eq,
      Bool.and_eq_false_imp, decide_eq_false_iff_not] at high ⊢
    omega
  refine ⟨r, ?_⟩
  simp only [readEscape, if_true, Cursor.next_cons, hq, bind, Except.bind, hlow, high,
    Bool.false_eq_true, if_false, expectPartner, hr, low]
  rw [← hc, Char.ofNat_toNat]

/-- One step of the reader of texts. -/
theorem readText_cons (x : Char) (s : List Char) (p : Place) :
    readText ⟨x :: s, p⟩ =
      if x = '"' then .ok ([], ⟨s, p.after x⟩)
      else if x = '\\' then (do
        let (y, d) ← readEscape ⟨s, p.after x⟩
        let (s, e) ← readText d
        .ok (y :: s, e))
      else if x.toNat < 0x20 then .error ⟨.controlCharacter, p.after x⟩
      else (do
        let (s, e) ← readText ⟨s, p.after x⟩
        .ok (x :: s, e)) := by
  rw [readText]
  simp only [Cursor.next_cons]
  cases readEscape ⟨s, p.after x⟩ <;> rfl

/-- A character behind a backslash, before a text that is read. -/
theorem Reads.escape {c : Char} {v s t u : List Char} (hc : Reads readEscape (v ++ t) c t)
    (ht : Reads readText t s u) : Reads readText ('\\' :: v ++ t) (c :: s) u := by
  intro p
  obtain ⟨q, hq⟩ := hc (p.after '\\')
  obtain ⟨r, hr⟩ := ht q
  refine ⟨r, ?_⟩
  rw [List.cons_append, readText_cons, if_neg (by decide), if_pos rfl, hq]
  show (readText ⟨t, q⟩ >>= _) = _
  rw [hr]
  rfl

/-- However a character is written, it is read before the text behind it. -/
theorem CharSpelling.reads_append {c : Char} {v s t u : List Char} (hc : CharSpelling c v)
    (ht : Reads readText t s u) : Reads readText (v ++ t) (c :: s) u := by
  cases hc with
  | plain hc hq hb =>
    intro p
    obtain ⟨q, hr⟩ := ht (p.after c)
    refine ⟨q, ?_⟩
    rw [List.singleton_append, readText_cons, if_neg hq, if_neg hb, if_neg (Nat.not_lt.mpr hc), hr]
    rfl
  | short hx => exact Reads.escape (v := [_]) (reads_readEscape_short hx t) ht
  | number hn => exact Reads.escape (v := [_, _, _, _, _]) (reads_readEscape_number hn t) ht
  | pair hn hm high low hc =>
    exact Reads.escape (v := [_, _, _, _, _, _, _, _, _, _, _])
      (reads_readEscape_pair hn hm high low hc t) ht

/-- Whichever ways the characters of a text are written, that text is read. -/
theorem reads_readText {s w : List Char} (h : Spelling s w) (t : List Char) :
    Reads readText (w ++ '"' :: t) s t := by
  induction h with
  | nil => exact fun p => ⟨_, by rw [List.nil_append, readText_cons, if_pos rfl]⟩
  | cons hc _ ih =>
    rw [List.append_assoc]
    exact hc.reads_append ih

/-! ## What is read -/

variable {c d : Cursor}

theorem hexFour_rest {s : List Char} {n : Nat} (h : hexFour s = some n) :
    ∃ i j k l t, s = i :: j :: k :: l :: t ∧ hexFour [i, j, k, l] = some n := by
  match s, h with
  | i :: j :: k :: l :: t, h => exact ⟨i, j, k, l, t, rfl, h⟩

theorem exists_readHexFour {n : Nat} (h : readHexFour c = .ok (n, d)) :
    ∃ i j k l, hexFour [i, j, k, l] = some n ∧ c.rest = i :: j :: k :: l :: d.rest := by
  unfold readHexFour at h
  split at h
  · cases h
  · split at h
    · cases h
    · rename_i m hm
      cases h
      obtain ⟨i, j, k, l, t, hrest, hn⟩ := hexFour_rest hm
      obtain ⟨s, p⟩ := c
      dsimp only at hrest
      subst hrest
      exact ⟨i, j, k, l, hn, rfl⟩

theorem hexValue?_lt {x : Char} {n : Nat} (h : Text.hexValue? x = some n) : n < 16 := by
  unfold Text.hexValue? at h
  dsimp only at h
  split at h
  · cases h
    omega
  · split at h
    · cases h
      omega
    · split at h
      · cases h
        omega
      · cases h

theorem hexFour_lt {i j k l : Char} {n : Nat} (h : hexFour [i, j, k, l] = some n) :
    n < 0x10000 := by
  simp only [hexFour, Option.bind_eq_bind, Option.bind_eq_some_iff, Option.pure_def,
    Option.some_inj] at h
  obtain ⟨a, ha, b, hb, c, hc, d, hd, rfl⟩ := h
  have := hexValue?_lt ha
  have := hexValue?_lt hb
  have := hexValue?_lt hc
  have := hexValue?_lt hd
  omega

theorem exists_expectPartner {x : Char} (h : expectPartner x c = .ok d) :
    c.rest = x :: d.rest := by
  unfold expectPartner at h
  split at h
  · cases h
  · rename_i y ys hy
    split at h
    · rename_i hyx
      cases h
      rw [Cursor.rest_next (congrArg List.head? hy), hyx]
    · cases h

theorem exists_readEscape {x : Char} (h : readEscape c = .ok (x, d)) :
    ∃ v, CharSpelling x ('\\' :: v) ∧ c.rest = v ++ d.rest := by
  obtain ⟨s, p⟩ := c
  cases s with
  | nil => cases h
  | cons y s =>
    simp only [readEscape, Cursor.next_cons] at h
    split at h
    · rename_i hy
      subst hy
      obtain ⟨⟨n, e⟩, hread, hescape⟩ := bind_eq_ok.mp h
      clear h
      obtain ⟨i, j, k, l, hn, hrest⟩ := exists_readHexFour hread
      have hlt := hexFour_lt hn
      dsimp only at hescape hrest
      subst hrest
      split at hescape
      · cases hescape
      · rename_i hlow
        split at hescape
        · rename_i hhigh
          obtain ⟨e₁, hbackslash, hescape⟩ := bind_eq_ok.mp hescape
          obtain ⟨e₂, hu, hescape⟩ := bind_eq_ok.mp hescape
          obtain ⟨⟨m, e₃⟩, hread', hescape⟩ := bind_eq_ok.mp hescape
          obtain ⟨i', j', k', l', hm, hrest⟩ := exists_readHexFour hread'
          dsimp only at hescape hrest
          split at hescape
          · rename_i hlow'
            obtain ⟨rfl, rfl⟩ := Prod.mk.inj (Except.ok.inj hescape)
            refine ⟨_, .pair hn hm hhigh hlow' (Text.Utf8.toNat_ofNat ?_), ?_⟩
            · simp only [isHighSurrogate, isLowSurrogate, Bool.and_eq_true,
                decide_eq_true_eq] at hhigh hlow'
              unfold Nat.isValidChar
              omega
            · rw [exists_expectPartner hbackslash, exists_expectPartner hu, hrest]
              rfl
          · cases hescape
        · rename_i hhigh
          cases hescape
          refine ⟨['u', i, j, k, l], .number ?_, rfl⟩
          rw [hn, Text.Utf8.toNat_ofNat]
          simp only [isHighSurrogate, isLowSurrogate, Bool.and_eq_true, decide_eq_true_eq,
            not_and] at hhigh hlow
          unfold Nat.isValidChar
          omega
    · split at h
      · rename_i z hz
        cases h
        exact ⟨[y], .short hz, rfl⟩
      · cases h

/-- The text that is read is the one whose spelling stands there. -/
theorem exists_readText {s : List Char} (h : readText c = .ok (s, d)) :
    ∃ w, Spelling s w ∧ c.rest = w ++ '"' :: d.rest := by
  fun_induction readText c generalizing s d with
  | case1 => cases h
  | case2 c xs hx =>
    cases h
    exact ⟨[], .nil, Cursor.rest_next (congrArg List.head? hx)⟩
  | case3 => cases h
  | case4 c xs y e he hx _ ih =>
    obtain ⟨v, hv, hrest⟩ := exists_readEscape he
    obtain ⟨⟨s, f⟩, hread, h⟩ := bind_eq_ok.mp h
    cases h
    obtain ⟨w, hw, hd⟩ := ih hread
    refine ⟨_, .cons hv hw, ?_⟩
    rw [Cursor.rest_next (congrArg List.head? hx), hrest, hd]
    simp
  | case5 => cases h
  | case6 c x xs hx hq hb hc ih =>
    obtain ⟨⟨s, f⟩, hread, h⟩ := bind_eq_ok.mp h
    cases h
    obtain ⟨w, hw, hd⟩ := ih hread
    refine ⟨_, .cons (.plain (Nat.not_lt.mp hc) hq hb) hw, ?_⟩
    rw [Cursor.rest_next (congrArg List.head? hx), hd]
    rfl

/-! ## Writing -/

/-- What the writer writes for a character is a way to write it. -/
theorem charSpelling_escapeChar (c : Char) : CharSpelling c (escapeChar c) := by
  unfold escapeChar
  -- the seven characters with a short escape
  iterate 7
    split
    · subst_vars
      exact .short rfl
  split
  · apply CharSpelling.number
    have hhigh := Text.hexValue?_digitChar (c.toNat / 16) (by omega)
    have hlow := Text.hexValue?_digitChar (c.toNat % 16) (by omega)
    simp only [hexFour, show Text.hexValue? '0' = some 0 from rfl, hhigh, hlow]
    show some _ = some _
    rw [Option.some_inj]
    omega
  · exact .plain (by omega) ‹_› ‹_›

theorem spelling_escape (s : List Char) : Spelling s (s.flatMap escapeChar) := by
  induction s with
  | nil => exact .nil
  | cons c s ih =>
    rw [List.flatMap_cons]
    exact .cons (charSpelling_escapeChar c) ih

end TaintClient.Json

/-
  Two ways to write one value. Blanks between its signs may differ, and so may the spelling of
  each character of its texts; everything else is the same (`Rewritten`). Whatever such a value
  means to a reader, both ways mean it: a text stays that text, an integer that integer, a `null`
  a `null`.

  Half of a pair of surrogates is no character, but texts that are stepped over may hold one. It
  is spelled in different ways too, by the case of its digits. So that a pair can be respelled by
  its halves, the proof for texts keeps track of low surrogates (`Respelled.spelling_and_low`).
-/
import TaintClient.Proofs.Json.Kind

namespace TaintClient.Json

variable {c d : Char} {n : Nat} {s t u v v' w w' : List Char} {b : Bracket} {p : Part}

/-! ## Spellings -/

/-- Two spellings of one text: each character is written in some way, and each surrogate that
stands alone as a number. -/
inductive Respelled : List Char → List Char → Prop
  | nil : Respelled [] []
  | char {c : Char} {v v' w w' : List Char} (hv : CharSpelling c v) (hv' : CharSpelling c v')
    (hw : Respelled w w') : Respelled (v ++ w) (v' ++ w')
  | number {i j k l i' j' k' l' : Char} {n : Nat} {w w' : List Char}
    (hn : hexFour [i, j, k, l] = some n) (hn' : hexFour [i', j', k', l'] = some n)
    (hw : Respelled w w') :
    Respelled ('\\' :: 'u' :: i :: j :: k :: l :: w) ('\\' :: 'u' :: i' :: j' :: k' :: l' :: w')

theorem Respelled.loose (h : Respelled w w') : LooseText w ∧ LooseText w' := by
  induction h with
  | nil => exact ⟨.nil, .nil⟩
  | char hv hv' _ ih => exact ⟨hv.loose.append ih.1, hv'.loose.append ih.2⟩
  | number hn hn' _ ih => exact ⟨.cons (.number hn) ih.1, .cons (.number hn') ih.2⟩

theorem Spelling.respelled (h : Spelling s w) (h' : Spelling s w') : Respelled w w' := by
  induction h generalizing w' with
  | nil =>
    cases h'
    exact .nil
  | cons hc _ ih =>
    cases h' with
    | cons hc' hs' => exact .char hc hc' (ih hs')

/-- A number that stands for a half of a pair does not stand for a character. -/
theorem hexFour_ne_of_high {i j k l : Char} (hn : hexFour [i, j, k, l] = some n)
    (high : isHighSurrogate n = true) : hexFour [i, j, k, l] ≠ some c.toNat := by
  intro h
  obtain rfl := Option.some_inj.mp (hn.symm.trans h)
  rw [(not_surrogate c).2] at high
  cases high

/-- Where a text begins with a character, no other one can be read there. -/
theorem CharSpelling.eq_of_append_eq (h : CharSpelling c v) (h' : CharSpelling d v')
    (heq : v ++ w = v' ++ w') : c = d ∧ v = v' := by
  have noShort : simpleEscape 'u' = none := rfl
  cases h with
  | plain _ _ hb =>
    cases h' with
    | plain => exact ⟨(List.cons.inj heq).1, by rw [(List.cons.inj heq).1]⟩
    | short => exact absurd (List.cons.inj heq).1 hb
    | number => exact absurd (List.cons.inj heq).1 hb
    | pair => exact absurd (List.cons.inj heq).1 hb
  | short hx =>
    cases h' with
    | plain _ _ hb' => exact absurd (List.cons.inj heq).1.symm hb'
    | short hx' =>
      obtain ⟨rfl, -⟩ := List.cons.inj (List.cons.inj heq).2
      exact ⟨Option.some_inj.mp (hx.symm.trans hx'), rfl⟩
    | number =>
      cases heq
      cases noShort.symm.trans hx
    | pair =>
      cases heq
      cases noShort.symm.trans hx
  | number hn =>
    cases h' with
    | plain _ _ hb' => exact absurd (List.cons.inj heq).1.symm hb'
    | short hx' =>
      cases heq
      cases noShort.symm.trans hx'
    | number hn' =>
      cases heq
      exact ⟨Char.toNat_inj.mp (Option.some_inj.mp (hn.symm.trans hn')), rfl⟩
    | pair hn' _ high' _ _ =>
      cases heq
      exact absurd hn (hexFour_ne_of_high hn' high')
  | pair hn hm high _ hc =>
    cases h' with
    | plain _ _ hb' => exact absurd (List.cons.inj heq).1.symm hb'
    | short hx' =>
      cases heq
      cases noShort.symm.trans hx'
    | number hn' =>
      cases heq
      exact absurd hn' (hexFour_ne_of_high hn high)
    | pair hn' hm' _ _ hc' =>
      cases heq
      obtain rfl := Option.some_inj.mp (hn.symm.trans hn')
      obtain rfl := Option.some_inj.mp (hm.symm.trans hm')
      exact ⟨Char.toNat_inj.mp (hc.trans hc'.symm), rfl⟩

/-- The first character of a spelling, and the spelling behind it. -/
theorem Spelling.of_append (h : Spelling s (v ++ w)) (hv : CharSpelling c v) :
    ∃ s', s = c :: s' ∧ Spelling s' w := by
  generalize hx : v ++ w = x at h
  cases h with
  | nil => cases hv <;> cases hx
  | cons hc hs =>
    obtain ⟨rfl, rfl⟩ := hv.eq_of_append_eq hc hx
    exact ⟨_, rfl, List.append_cancel_left hx ▸ hs⟩

/-- No character is written as a low surrogate. -/
theorem CharSpelling.isLowSurrogate_eq {i j k l : Char} (hv : CharSpelling c v)
    (heq : v ++ w = '\\' :: 'u' :: i :: j :: k :: l :: t) (hn : hexFour [i, j, k, l] = some n) :
    isLowSurrogate n = false := by
  cases hv with
  | plain _ _ hb => exact absurd (List.cons.inj heq).1 hb
  | short hx =>
    cases heq
    cases hx
  | number hn' =>
    cases heq
    obtain rfl := Option.some_inj.mp (hn.symm.trans hn')
    exact (not_surrogate c).1
  | pair hn' _ high _ _ =>
    cases heq
    obtain rfl := Option.some_inj.mp (hn.symm.trans hn')
    simp only [isHighSurrogate, isLowSurrogate, Bool.and_eq_true, Bool.and_eq_false_iff,
      decide_eq_true_eq, decide_eq_false_iff_not] at high ⊢
    omega

/-- A text keeps its characters when it is respelled. Behind a low surrogate they are kept too. -/
theorem Respelled.spelling_and_low (h : Respelled w w') :
    (∀ s, Spelling s w → Spelling s w') ∧
      ∀ i j k l n t, w = '\\' :: 'u' :: i :: j :: k :: l :: t → hexFour [i, j, k, l] = some n →
        isLowSurrogate n = true →
        ∃ i' j' k' l' t', w' = '\\' :: 'u' :: i' :: j' :: k' :: l' :: t' ∧
          hexFour [i', j', k', l'] = some n ∧ ∀ s, Spelling s t → Spelling s t' := by
  induction h with
  | nil => exact ⟨fun s hs => hs, nofun⟩
  | @char c v v' w w' hv hv' _ ih =>
    constructor
    · intro s hs
      obtain ⟨s', rfl, hs'⟩ := hs.of_append hv
      exact .cons hv' (ih.1 s' hs')
    · intro i j k l n t heq hn low
      rw [hv.isLowSurrogate_eq heq hn] at low
      cases low
  | @number i j k l i' j' k' l' n w w' hn hn' _ ih =>
    constructor
    · intro s hs
      generalize hx : '\\' :: 'u' :: i :: j :: k :: l :: w = x at hs
      cases hs with
      | nil => cases hx
      | @cons c v s u hc hs =>
        cases hc with
        | plain _ _ hb => exact absurd (List.cons.inj hx).1.symm hb
        | short hshort =>
          cases hx
          cases hshort
        | number hc =>
          cases hx
          have hchar : hexFour [i', j', k', l'] = some c.toNat := hn'.trans (hn.symm.trans hc)
          exact .cons (.number hchar) (ih.1 s hs)
        | pair hc hm high low hcode =>
          cases hx
          obtain ⟨_, _, _, _, t', rfl, hm', ht'⟩ := ih.2 _ _ _ _ _ _ rfl hm low
          have hhigh : hexFour [i', j', k', l'] = some _ := hn'.trans (hn.symm.trans hc)
          exact .cons (.pair hhigh hm' high low hcode) (ht' s hs)
    · intro _ _ _ _ m t heq hm low
      cases heq
      obtain rfl := Option.some_inj.mp (hn.symm.trans hm)
      exact ⟨_, _, _, _, _, rfl, hn', ih.1⟩

theorem Respelled.spelling (h : Respelled w w') (hs : Spelling s w) : Spelling s w' :=
  h.spelling_and_low.1 s hs

/-! ## Values -/

/-- Two ways to write what stands before a value in a bracket. -/
inductive RewrittenIntro : Bracket → List Char → List Char → Prop
  | list {u u' : List Char} (hu : Blank u) (hu' : Blank u') : RewrittenIntro .list u u'
  | object {u n v w u' n' v' w' : List Char} (hu : Blank u) (hn : Respelled n n') (hv : Blank v)
    (hw : Blank w) (hu' : Blank u') (hv' : Blank v') (hw' : Blank w') :
    RewrittenIntro .object (u ++ '"' :: (n ++ '"' :: (v ++ ':' :: w)))
      (u' ++ '"' :: (n' ++ '"' :: (v' ++ ':' :: w')))

/-- Two ways to write a part of a text: with any blanks, and any spelling of its texts. -/
inductive Rewritten : Part → List Char → List Char → Prop
  | scalar {v : List Char} (hv : Scalar v) : Rewritten .value v v
  | text {w w' : List Char} (hw : Respelled w w') :
    Rewritten .value ('"' :: (w ++ ['"'])) ('"' :: (w' ++ ['"']))
  | empty (b : Bracket) {u u' : List Char} (hu : Blank u) (hu' : Blank u') :
    Rewritten .value (b.opening :: (u ++ [b.closing])) (b.opening :: (u' ++ [b.closing]))
  | bracket {b : Bracket} {e e' : List Char} (he : Rewritten (.entries b) e e') :
    Rewritten .value (b.opening :: e) (b.opening :: e')
  | entry {b : Bracket} {i v w i' v' w' : List Char} (hi : RewrittenIntro b i i')
    (hv : Rewritten .value v v') (hw : Rewritten (.behind b) w w') :
    Rewritten (.entries b) (i ++ (v ++ w)) (i' ++ (v' ++ w'))
  | close {b : Bracket} {u u' : List Char} (hu : Blank u) (hu' : Blank u') :
    Rewritten (.behind b) (u ++ [b.closing]) (u' ++ [b.closing])
  | more {b : Bracket} {u e u' e' : List Char} (hu : Blank u) (hu' : Blank u')
    (he : Rewritten (.entries b) e e') :
    Rewritten (.behind b) (u ++ ',' :: e) (u' ++ ',' :: e')

theorem RewrittenIntro.intro (h : RewrittenIntro b u v) : Intro b u ∧ Intro b v := by
  cases h with
  | list hu hu' => exact ⟨.list hu, .list hu'⟩
  | object hu hn hv hw hu' hv' hw' =>
    exact ⟨.object hu hn.loose.1 hv hw, .object hu' hn.loose.2 hv' hw'⟩

/-- Both ways are well-formed. -/
theorem Rewritten.wellFormed (h : Rewritten p v v') : WellFormed p v ∧ WellFormed p v' := by
  induction h with
  | scalar hv => exact ⟨.scalar hv, .scalar hv⟩
  | text hw => exact ⟨.scalar (.text hw.loose.1), .scalar (.text hw.loose.2)⟩
  | empty b hu hu' => exact ⟨.empty b hu, .empty b hu'⟩
  | bracket _ ih => exact ⟨.bracket ih.1, .bracket ih.2⟩
  | entry hi _ _ ihv ihw =>
    exact ⟨.entry hi.intro.1 ihv.1 ihw.1, .entry hi.intro.2 ihv.2 ihw.2⟩
  | close hu hu' => exact ⟨.close hu, .close hu'⟩
  | more hu hu' _ ih => exact ⟨.more hu ih.1, .more hu' ih.2⟩

/-- A value that begins with no mark and no bracket is written in one way only. -/
theorem Rewritten.eq_of_begins (h : Rewritten .value v v')
    (hv : Begins (fun x => x ≠ '"' ∧ x ≠ '[' ∧ x ≠ '\x7b') v) : v' = v := by
  obtain ⟨x, t, rfl, hmark, hlist, hobject⟩ := hv
  generalize hx : x :: t = s at h
  cases h with
  | scalar => rfl
  | text => exact absurd (List.cons.inj hx).1 hmark
  | empty b =>
    cases b with
    | list => exact absurd (List.cons.inj hx).1 hlist
    | object => exact absurd (List.cons.inj hx).1 hobject
  | @bracket b =>
    cases b with
    | list => exact absurd (List.cons.inj hx).1 hlist
    | object => exact absurd (List.cons.inj hx).1 hobject

/-- A text stays the text that it is. -/
theorem IsText.rewritten (h : IsText s v) (hv : Rewritten .value v v') : IsText s v' := by
  obtain ⟨hs⟩ := h
  rename_i w
  generalize hx : '"' :: (w ++ ['"']) = x at hv
  cases hv with
  | scalar => exact hx ▸ .mk hs
  | text hw =>
    obtain rfl := List.append_cancel_right (List.cons.inj hx).2
    exact .mk (hw.spelling hs)
  | empty b => cases b <;> cases hx
  | @bracket b => cases b <;> cases hx

/-- An integer stays the integer that it is. -/
theorem IsInteger.rewritten {m : Int} (h : IsInteger m v) (hv : Rewritten .value v v') :
    IsInteger m v' := by
  have hdigit : ∀ x : Char, x.isDigit = true → x ≠ '"' ∧ x ≠ '[' ∧ x ≠ '\x7b' := by
    intro x hx
    refine ⟨?_, ?_, ?_⟩ <;> (rintro rfl; cases hx)
  have hbegins : Begins (fun x => x ≠ '"' ∧ x ≠ '[' ∧ x ≠ '\x7b') v := by
    cases h with
    | natural hs _ _ => exact hs.begins.mono hdigit
    | negative _ _ _ _ => exact ⟨_, _, rfl, by decide⟩
  exact hv.eq_of_begins hbegins ▸ h

end TaintClient.Json

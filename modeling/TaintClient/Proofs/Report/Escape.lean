/-
  Texts that were made harmless. A text as markup has no sign that opens or closes a tag, it can be
  read back by undoing the three references, and as ordinary markup it is read as text that shows
  just its characters. A colour made harmless can stand in the value of an attribute as it is.
-/
import TaintClient.Proofs.Markup.Tag
import TaintClient.Report.Html
import TaintClient.Text.Blank

namespace TaintClient.Report

open Markup

variable {c : Char} {s t : List Char} {r : Reading}

/-! ## Undoing -/

/-- Puts the signs of markup back for their references, from left to right. -/
def unescape : List Char → List Char
  | '&' :: 'a' :: 'm' :: 'p' :: ';' :: s => '&' :: unescape s
  | '&' :: 'l' :: 't' :: ';' :: s => '<' :: unescape s
  | '&' :: 'g' :: 't' :: ';' :: s => '>' :: unescape s
  | c :: s => c :: unescape s
  | [] => []

theorem unescape_cons (hc : c ≠ '&') (s : List Char) : unescape (c :: s) = c :: unescape s := by
  rw [unescape.eq_4]
  all_goals
    intro _ h
    exact absurd h hc

theorem escapeText_cons (c : Char) (s : List Char) :
    escapeText (c :: s) = escapeChar c ++ escapeText s := List.flatMap_cons

theorem escapeText_append (s t : List Char) :
    escapeText (s ++ t) = escapeText s ++ escapeText t := List.flatMap_append

/-- A character that stands for itself in markup. -/
def isOrdinary (c : Char) : Bool := !isMarkup c && c != '>'

theorem escapeChar_of_isOrdinary (h : isOrdinary c = true) : escapeChar c = [c] := by
  simp only [isOrdinary, isMarkup, Bool.and_eq_true, Bool.not_eq_true', Bool.or_eq_false_iff,
    decide_eq_false_iff_not, bne_iff_ne, ne_eq] at h
  obtain ⟨⟨⟨hlt, hamp⟩, _⟩, hgt⟩ := h
  rw [escapeChar, if_neg hamp, if_neg hlt, if_neg hgt]

/-- The text is read back, whatever it looks like. -/
theorem unescape_escapeText (s : List Char) : unescape (escapeText s) = s := by
  induction s with
  | nil => rfl
  | cons c s ih =>
    rw [escapeText_cons]
    unfold escapeChar
    split
    · subst_vars
      exact congrArg ('&' :: ·) ih
    · rename_i hamp
      split
      · subst_vars
        exact congrArg ('<' :: ·) ih
      · split
        · subst_vars
          exact congrArg ('>' :: ·) ih
        · exact (unescape_cons hamp _).trans (congrArg (c :: ·) ih)

theorem escapeText_injective : Function.Injective escapeText :=
  Function.LeftInverse.injective unescape_escapeText

/-- No sign of a tag is left. -/
theorem not_mem_escapeText (s : List Char) : '<' ∉ escapeText s ∧ '>' ∉ escapeText s := by
  have hchar : ∀ c, '<' ∉ escapeChar c ∧ '>' ∉ escapeChar c := by
    intro c
    unfold escapeChar
    split
    · decide
    · split
      · decide
      · split
        · decide
        · rename_i hlt hgt
          exact ⟨by simpa using Ne.symm hlt, by simpa using Ne.symm hgt⟩
  constructor <;> intro h <;> obtain ⟨c, _, hc⟩ := List.mem_flatMap.mp h
  · exact (hchar c).1 hc
  · exact (hchar c).2 hc

/-! ## Tokens of a text -/

/-- The characters that a token shows. -/
def shown : Token → List Char
  | .text s => s
  | .null => ['\x00']
  | _ => []

/-- Whether a token opens and closes nothing: it is text, a null character, or a fault. -/
def isTextual : Token → Bool
  | .text _ | .null | .fault => true
  | _ => false

/-- Tokens that are text throughout, and together show the text `s`. -/
structure Shows (ts : List Token) (s : List Char) : Prop where
  textual : ∀ t ∈ ts, isTextual t = true
  shown : ts.flatMap shown = s

theorem Shows.append {ts us : List Token} (hs : Shows ts s) (ht : Shows us t) :
    Shows (ts ++ us) (s ++ t) := by
  constructor
  · intro x hx
    exact (List.mem_append.mp hx).elim (hs.textual x) (ht.textual x)
  · rw [List.flatMap_append, hs.shown, ht.shown]

theorem shows_text (s : List Char) : Shows [.text s] s := by
  constructor
  · intro x hx
    rw [List.mem_singleton.mp hx]
    rfl
  · exact List.append_nil s

/-- The step at a reference that stands for a sign of markup. -/
theorem step_escapeChar (hc : c = '&' ∨ c = '<' ∨ c = '>') (hr : r.content = .markup) (f : Bool) :
    ∃ u, escapeChar c = '&' :: u ∧ ∀ s, step r f '&' (u ++ s) = ⟨[.text [c]], r, s⟩ := by
  have hstep : ∀ u, step r f '&' u = ampersandStep r u := by
    intro u
    simp only [step, hr]
    rfl
  obtain rfl | rfl | rfl := hc
  · refine ⟨"amp;".toList, rfl, fun s => (hstep _).trans ?_⟩
    show ampersandStep r ('a' :: 'm' :: 'p' :: ';' :: s) = _
    simp [ampersandStep, reference?, named?, closed?]
  · refine ⟨"lt;".toList, rfl, fun s => (hstep _).trans ?_⟩
    show ampersandStep r ('l' :: 't' :: ';' :: s) = _
    simp [ampersandStep, reference?, named?, closed?]
  · refine ⟨"gt;".toList, rfl, fun s => (hstep _).trans ?_⟩
    show ampersandStep r ('g' :: 't' :: ';' :: s) = _
    simp [ampersandStep, reference?, named?, closed?]

/-- The text up to the next character that does not stand for itself. -/
theorem exists_run (hc : isOrdinary c = true) (s : List Char) :
    ∃ run rest, c :: s = run ++ rest ∧ run ≠ [] ∧ (∀ x ∈ run, isOrdinary x = true) ∧
      ∀ x, rest.head? = some x → isOrdinary x = false := by
  refine ⟨(c :: s).takeWhile isOrdinary, (c :: s).dropWhile isOrdinary,
    List.takeWhile_append_dropWhile.symm, ?_, ?_, ?_⟩
  · rw [List.takeWhile_cons, if_pos hc]
    exact List.cons_ne_nil _ _
  · intro x hx
    exact List.all_eq_true.mp (List.all_takeWhile) x hx
  · intro x hx
    have := List.head?_dropWhile_not isOrdinary (c :: s)
    rw [hx] at this
    simpa using this

theorem escapeText_of_isOrdinary (hs : ∀ x ∈ s, isOrdinary x = true) : escapeText s = s := by
  induction s with
  | nil => rfl
  | cons c s ih =>
    rw [escapeText_cons, escapeChar_of_isOrdinary (hs c List.mem_cons_self),
      ih fun x hx => hs x (List.mem_cons_of_mem c hx), List.singleton_append]

theorem isMarkup_of_isOrdinary (h : isOrdinary c = true) : isMarkup c = false := by
  simp only [isOrdinary, Bool.and_eq_true, Bool.not_eq_true'] at h
  exact h.1

/-- What does not stand for itself is a null character, or it is escaped. -/
theorem eq_of_not_isOrdinary (h : isOrdinary c = false) :
    c = '\x00' ∨ c = '&' ∨ c = '<' ∨ c = '>' := by
  simp only [isOrdinary, isMarkup, Bool.and_eq_false_iff, Bool.not_eq_false', Bool.or_eq_true,
    decide_eq_true_eq, bne_eq_false_iff_eq] at h
  obtain ((h | h) | h) | h := h
  · exact .inr (.inr (.inl h))
  · exact .inr (.inl h)
  · exact .inl h
  · exact .inr (.inr (.inr h))

/-- Where a run of text ends, a sign of markup stands. -/
theorem isMarkup_head?_escapeText (hs : ∀ x, s.head? = some x → isOrdinary x = false)
    (ht : ∀ x, t.head? = some x → isMarkup x = true) :
    ∀ x, (escapeText s ++ t).head? = some x → isMarkup x = true := by
  cases s with
  | nil => exact ht
  | cons c s =>
    obtain rfl | rfl | rfl | rfl := eq_of_not_isOrdinary (hs c rfl) <;>
      (intro x hx; obtain rfl := Option.some_inj.mp hx; decide)

/-- A text as markup is read as text that shows just its characters, and as the same one whatever
follows; by induction on the length: one run, reference or null character is read, and then the
others. -/
theorem tokens_escapeText (hr : r.content = .markup) (s : List Char) :
    ∃ ts, Shows ts s ∧ ∀ t, (∀ x, t.head? = some x → isMarkup x = true) →
      tokens r (escapeText s ++ t) = ts ++ tokens r t := by
  generalize hn : s.length = n
  induction n using Nat.strongRecOn generalizing s with
  | ind n ih =>
    subst hn
    cases s with
    | nil => exact ⟨[], ⟨nofun, rfl⟩, fun _ _ => rfl⟩
    | cons c s =>
      cases hc : isOrdinary c with
      | true =>
        obtain ⟨run, rest, hcons, hne, hrun, hrest⟩ := exists_run hc s
        have hlen : rest.length < (c :: s).length := by
          have := List.length_pos_iff.mpr hne
          rw [hcons, List.length_append]
          omega
        obtain ⟨ts, hshows, htokens⟩ := ih _ hlen rest rfl
        refine ⟨.text run :: ts, ?_, fun t ht => ?_⟩
        · rw [hcons]
          exact (shows_text run).append hshows
        · rw [hcons, escapeText_append, escapeText_of_isOrdinary hrun, List.append_assoc,
            tokens_text hne (fun x hx => isMarkup_of_isOrdinary (hrun x hx)) hr
              (isMarkup_head?_escapeText hrest ht), htokens t ht]
          rfl
      | false =>
        obtain ⟨ts, hshows, htokens⟩ := ih s.length (Nat.lt_succ_self _) s rfl
        obtain rfl | hsign := eq_of_not_isOrdinary hc
        · refine ⟨[.fault, .null] ++ ts, .append (s := ['\x00']) ⟨by decide, rfl⟩ hshows,
            fun t ht => ?_⟩
          show tokens r ('\x00' :: (escapeText s ++ t)) = _
          rw [tokens_cons]
          simp only [step, hr]
          rw [List.append_assoc, ← htokens t ht]
          rfl
        · obtain ⟨u, hu, hstep⟩ := step_escapeChar hsign hr false
          refine ⟨[.text [c]] ++ ts, (shows_text [c]).append hshows, fun t ht => ?_⟩
          rw [escapeText_cons, hu, List.cons_append, List.cons_append, List.append_assoc,
            tokens_cons, hstep, htokens t ht, List.append_assoc]

/-! ## Line ends -/

theorem unifyLineEnds_cons (hc : c ≠ '\r') (s : List Char) :
    Text.unifyLineEnds (c :: s) = c :: Text.unifyLineEnds s := by
  rw [Text.unifyLineEnds.eq_4]
  all_goals
    intros
    simp_all

theorem unifyLineEnds_append (hs : '\r' ∉ s) (t : List Char) :
    Text.unifyLineEnds (s ++ t) = s ++ Text.unifyLineEnds t := by
  induction s with
  | nil => rfl
  | cons c s ih =>
    rw [List.mem_cons, not_or] at hs
    rw [List.cons_append, unifyLineEnds_cons (Ne.symm hs.1), ih hs.2, List.cons_append]

theorem unifyLineEnds_return (hs : s.head? ≠ some '\n') :
    Text.unifyLineEnds ('\r' :: s) = '\n' :: Text.unifyLineEnds s := by
  cases s with
  | nil => rfl
  | cons c s =>
    rw [Text.unifyLineEnds.eq_3]
    rintro _ h
    cases h
    exact hs rfl

theorem not_mem_escapeChar (hc : c ≠ '\r') : '\r' ∉ escapeChar c := by
  unfold escapeChar
  split
  · decide
  · split
    · decide
    · split
      · decide
      · simpa using Ne.symm hc

/-- A character that begins no reference begins a text as markup only where it begins the text. -/
theorem head?_escapeText {x : Char} (hx : '&' ≠ x) (hs : s.head? ≠ some x)
    (ht : t.head? ≠ some x) : (escapeText s ++ t).head? ≠ some x := by
  cases s with
  | nil => exact ht
  | cons c s =>
    rw [escapeText_cons]
    unfold escapeChar
    split
    · exact fun h => hx (Option.some_inj.mp h)
    · split
      · exact fun h => hx (Option.some_inj.mp h)
      · split
        · exact fun h => hx (Option.some_inj.mp h)
        · exact hs

/-- Escaping leaves line ends as they are. -/
theorem unifyLineEnds_escapeText (s : List Char) (ht : t.head? ≠ some '\n') :
    Text.unifyLineEnds (escapeText s ++ t) =
      escapeText (Text.unifyLineEnds s) ++ Text.unifyLineEnds t := by
  fun_induction Text.unifyLineEnds s with
  | case1 => rfl
  | case2 cs ih => exact congrArg ('\n' :: ·) ih
  | case3 cs hcs ih =>
    have hhead : cs.head? ≠ some '\n' := by
      cases cs with
      | nil => simp
      | cons c cs =>
        intro h
        exact hcs cs (congrArg (· :: cs) (Option.some_inj.mp h))
    have hreturn := unifyLineEnds_return (head?_escapeText (by decide) hhead ht)
    exact hreturn.trans (congrArg ('\n' :: ·) ih)
  | case4 c cs hcs hc ih =>
    rw [escapeText_cons, escapeText_cons, List.append_assoc, List.append_assoc,
      unifyLineEnds_append (not_mem_escapeChar hc), ih]

/-! ## Colours -/

/-- A colour made harmless is a value as it is written. -/
theorem isPlainValue_cssColor (s : List Char) : IsPlainValue (cssColor s) := by
  intro c hc
  have hcolor := (List.mem_filter.mp hc).2
  have hne : ∀ x : Char, isColorChar x = false → c ≠ x := by
    rintro x hx rfl
    rw [hcolor] at hx
    cases hx
  exact ⟨hne _ rfl, hne _ rfl, hne _ rfl⟩

/-- No colour has the sign that ends it. -/
theorem semicolon_not_mem_cssColor (s : List Char) : ';' ∉ cssColor s := fun h =>
  absurd (List.mem_filter.mp h).2 (by decide)

end TaintClient.Report

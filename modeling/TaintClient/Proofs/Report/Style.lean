/-
  The styles of a coloured report, read as a page reads them: declarations between semicolons that
  stand in no parenthesis. A parenthesis that is not closed reaches to the end of the style.

  The border's style is one declaration for every colour (`styles_declare`). The style of the head
  is its two declarations exactly if every parenthesis that the colour opens is closed in it
  (`IsClosed`). Otherwise the declaration behind the colour is lost: what is kept of a colour are
  signs that can stand in one, but nothing makes its parentheses match.

  Only parentheses are read here. Other signs that hide a semicolon from a page, such as quotation
  marks, brackets and comments, are in no style of a report.
-/
import TaintClient.Proofs.Report.Header
import TaintClient.Proofs.Text.Lines

namespace TaintClient.Report

open Markup

variable {c : Char} {n : Nat} {s t : List Char}

/-! ## Reading a style -/

/-- How many parentheses are open behind a character. One that closes nothing does not count. -/
def nest (n : Nat) (c : Char) : Nat :=
  if c = '(' then n + 1 else if c = ')' then n - 1 else n

/-- How many parentheses are open behind a text. -/
def openBehind (n : Nat) (s : List Char) : Nat := s.foldl nest n

/-- The parts of a style between semicolons outside of parentheses, `n` of which are open. -/
def parts (n : Nat) : List Char → List (List Char)
  | [] => [[]]
  | c :: s => if c = ';' ∧ n = 0 then [] :: parts 0 s else (parts (nest n c) s).modifyHead (c :: ·)

/-- A property and what it is set to. -/
structure Declaration where
  property : List Char
  value : List Char
deriving DecidableEq

/-- A text without the blanks around it. -/
def strip (s : List Char) : List Char := Text.dropEnd isSpace (s.dropWhile isSpace)

/-- A part read as a declaration, with its first colon behind the property. -/
def Declaration.ofPart (s : List Char) : Declaration :=
  ⟨strip (s.takeWhile (· ≠ ':')), strip ((s.dropWhile (· ≠ ':')).drop 1)⟩

/-- The declarations of a style. Only blank parts declare nothing. -/
def declarations (style : List Char) : List Declaration :=
  ((parts 0 style).filter fun s => !s.all isSpace).map .ofPart

/-- Whether every parenthesis that a text opens is closed in it: no end of it opens more than it
closes. -/
def IsClosed (s : List Char) : Prop := ∀ t, t <:+ s → t.count '(' ≤ t.count ')'

/-! ## Parentheses -/

/-- Whether a character is a parenthesis. -/
def isParenthesis (c : Char) : Bool := c = '(' || c = ')'

theorem nest_of_not (h : isParenthesis c = false) (n : Nat) : nest n c = n := by
  simp only [isParenthesis, Bool.or_eq_false_iff, decide_eq_false_iff_not] at h
  rw [nest, if_neg h.1, if_neg h.2]

theorem openBehind_append (n : Nat) (s t : List Char) :
    openBehind n (s ++ t) = openBehind (openBehind n s) t := List.foldl_append

theorem openBehind_of_not (h : s.any isParenthesis = false) (n : Nat) : openBehind n s = n := by
  induction s with
  | nil => rfl
  | cons c s ih =>
    rw [List.any_cons, Bool.or_eq_false_iff] at h
    rw [openBehind, List.foldl_cons, nest_of_not h.1]
    exact ih h.2

/-- What is taken out of a colour leaves its parentheses as they are. -/
theorem openBehind_cssColor (n : Nat) (s : List Char) :
    openBehind n (cssColor s) = openBehind n s := by
  induction s generalizing n with
  | nil => rfl
  | cons c s ih =>
    unfold cssColor openBehind at *
    rw [List.filter_cons, List.foldl_cons]
    split
    · rw [List.foldl_cons, ih]
    · rename_i hc
      have hnot : isParenthesis c = false := by
        rw [Bool.eq_false_iff]
        intro h
        obtain rfl | rfl : c = '(' ∨ c = ')' := by simpa [isParenthesis] using h
        · exact hc rfl
        · exact hc rfl
      rw [nest_of_not hnot, ih]

theorem IsClosed.count_le (h : IsClosed s) : s.count '(' ≤ s.count ')' := h s List.suffix_rfl

theorem isClosed_cons :
    IsClosed (c :: s) ↔ IsClosed s ∧ (c :: s).count '(' ≤ (c :: s).count ')' := by
  constructor
  · intro h
    exact ⟨fun t ht => h t (ht.trans (List.suffix_cons c s)), h.count_le⟩
  · rintro ⟨h, hcount⟩ t ht
    obtain rfl | ht := List.suffix_cons_iff.mp ht
    · exact hcount
    · exact h t ht

/-- Nothing is open behind a text exactly if it closes what it opens, and what was open before. -/
theorem openBehind_eq_zero_iff (n : Nat) (s : List Char) :
    openBehind n s = 0 ↔ IsClosed s ∧ n + s.count '(' ≤ s.count ')' := by
  induction s generalizing n with
  | nil =>
    have hclosed : IsClosed [] := fun t ht => by simp [List.suffix_nil.mp ht]
    simpa [openBehind] using fun _ => hclosed
  | cons c s ih =>
    rw [openBehind, List.foldl_cons, ← openBehind, ih, isClosed_cons, List.count_cons,
      List.count_cons]
    by_cases hs : IsClosed s
    · have hcount := hs.count_le
      simp only [hs, true_and, beq_iff_eq, nest]
      by_cases hopen : c = '('
      · have hclose : c ≠ ')' := by
          rw [hopen]
          decide
        rw [if_pos hopen, if_pos hopen, if_neg hclose]
        omega
      · rw [if_neg hopen, if_neg hopen]
        split <;> omega
    · simp [hs]

theorem isClosed_iff : IsClosed s ↔ openBehind 0 s = 0 := by
  rw [openBehind_eq_zero_iff, Nat.zero_add]
  exact ⟨fun h => ⟨h, h.count_le⟩, And.left⟩

instance (s : List Char) : Decidable (IsClosed s) := decidable_of_iff _ isClosed_iff.symm

/-! ## Parts -/

/-- A text without semicolons is one part, and goes on with the first part behind it. -/
theorem parts_append (hs : ';' ∉ s) (n : Nat) (t : List Char) :
    parts n (s ++ t) = (parts (openBehind n s) t).modifyHead (s ++ ·) := by
  induction s generalizing n with
  | nil => exact (congrFun List.modifyHead_id _).symm
  | cons c s ih =>
    rw [List.mem_cons, not_or] at hs
    rw [List.cons_append, parts, if_neg fun h => hs.1 h.1.symm, ih hs.2, List.modifyHead_modifyHead]
    rfl

/-- Inside a parenthesis that is not closed there is one part. -/
theorem parts_of_open (hn : n ≠ 0) (hs : s.any isParenthesis = false) : parts n s = [s] := by
  induction s with
  | nil => rfl
  | cons c s ih =>
    rw [List.any_cons, Bool.or_eq_false_iff] at hs
    rw [parts, if_neg fun h => hn h.2, nest_of_not hs.1, ih hs.2]
    rfl

/-- A part with a property of its own name. -/
theorem Declaration.ofPart_append (hs : ':' ∉ s) (t : List Char) :
    ofPart (s ++ ':' :: t) = ⟨strip s, strip t⟩ := by
  have hall : ∀ c ∈ s, decide (c ≠ ':') = true := fun c hc => decide_eq_true fun h => hs (h ▸ hc)
  rw [ofPart, List.takeWhile_append_of_pos hall, List.dropWhile_append_of_pos hall]
  simp

/-! ## Declarations -/

theorem strip_cons_space (s : List Char) : strip (' ' :: s) = strip s := by
  rw [strip, List.dropWhile_cons_of_pos (by decide), strip]

section

variable {name value : List Char}

/-- No sign of a style is part of a name. -/
theorem not_mem_of_isNameable {x : Char} (hname : ∀ c ∈ name, isNameable c = true)
    (hx : isNameable x = false) : x ∉ name := by
  intro h
  rw [hname x h] at hx
  cases hx

theorem any_isParenthesis_of_isNameable (hname : ∀ c ∈ name, isNameable c = true) :
    name.any isParenthesis = false := by
  refine List.any_eq_false.mpr fun c hc h => ?_
  obtain rfl | rfl : c = '(' ∨ c = ')' := by simpa [isParenthesis] using h
  · exact not_mem_of_isNameable hname rfl hc
  · exact not_mem_of_isNameable hname rfl hc

theorem not_all_isSpace_of_isNameable (hne : name ≠ []) (hname : ∀ c ∈ name, isNameable c = true)
    (s : List Char) : (name ++ s).all isSpace = false := by
  obtain ⟨c, name, rfl⟩ := List.exists_cons_of_ne_nil hne
  rw [List.cons_append, List.all_cons, (of_isNameable (hname c List.mem_cons_self)).1,
    Bool.false_and]

/-- A name has no blanks around it. -/
theorem strip_of_isNameable (hname : ∀ c ∈ name, isNameable c = true) : strip name = name := by
  have hspace : ∀ c ∈ name, isSpace c = false := fun c hc => (of_isNameable (hname c hc)).1
  have hfront : name.dropWhile isSpace = name := by
    cases name with
    | nil => rfl
    | cons c name => exact List.dropWhile_cons_of_neg (by simp [hspace c List.mem_cons_self])
  rw [strip, hfront]
  exact Text.dropEnd_eq_self fun c hc => hspace c (List.mem_of_getLast? hc)

/-- The part that a property begins goes on behind its value. -/
theorem parts_property (hname : ∀ c ∈ name, isNameable c = true) (hvalue : ';' ∉ value)
    (rest : List Char) :
    parts 0 (name ++ ':' :: (value ++ rest)) =
      (parts (openBehind 0 value) rest).modifyHead ((name ++ ':' :: value) ++ ·) := by
  have hsemicolon : ';' ∉ name ++ ':' :: value := by
    have hn : ';' ∉ name := not_mem_of_isNameable hname rfl
    simp [hn, hvalue]
  have hopen : openBehind 0 (name ++ ':' :: value) = openBehind 0 value := by
    rw [openBehind_append, openBehind_of_not (any_isParenthesis_of_isNameable hname)]
    rfl
  rw [← List.cons_append, ← List.append_assoc, parts_append hsemicolon, hopen]

/-- A part with a property declares it. -/
theorem declarations_of_parts (hne : name ≠ []) (hname : ∀ c ∈ name, isNameable c = true)
    {ps : List (List Char)} (h : parts 0 s = (name ++ ':' :: value) :: ps) :
    declarations s = ⟨name, strip value⟩ ::
      (ps.filter fun s => !s.all isSpace).map .ofPart := by
  rw [declarations, h, List.filter_cons, not_all_isSpace_of_isNameable hne hname,
    Bool.not_false, if_pos rfl, List.map_cons,
    Declaration.ofPart_append (not_mem_of_isNameable hname rfl), strip_of_isNameable hname]

/-- A declaration whose value closes its parentheses ends at its semicolon. -/
theorem declarations_of_closed (hne : name ≠ []) (hname : ∀ c ∈ name, isNameable c = true)
    (hvalue : ';' ∉ value) (hclosed : openBehind 0 value = 0) (rest : List Char) :
    declarations (name ++ ':' :: (value ++ ';' :: rest)) =
      ⟨name, strip value⟩ :: declarations rest := by
  refine declarations_of_parts hne hname ?_
  rw [parts_property hname hvalue, hclosed, parts, if_pos ⟨rfl, rfl⟩, List.modifyHead_cons,
    List.append_nil]

/-- A declaration whose value leaves a parenthesis open takes in all that is behind it. -/
theorem declarations_of_open (hne : name ≠ []) (hname : ∀ c ∈ name, isNameable c = true)
    (hvalue : ';' ∉ value) (hopen : openBehind 0 value ≠ 0) {rest : List Char}
    (hrest : rest.any isParenthesis = false) :
    declarations (name ++ ':' :: (value ++ rest)) = [⟨name, strip (value ++ rest)⟩] := by
  have hparts : parts 0 (name ++ ':' :: (value ++ rest)) = [name ++ ':' :: (value ++ rest)] := by
    rw [parts_property hname hvalue, parts_of_open hopen hrest, List.modifyHead_cons,
      List.append_assoc, List.cons_append]
  exact declarations_of_parts hne hname hparts

end

/-! ## The styles of a report -/

/-- The style of a panel's border. -/
def borderStyle (shade : List Char) : List Char := "border-color: ".toList ++ shade ++ ";".toList

/-- The style of a panel's head. -/
def headStyle (shade : List Char) : List Char :=
  "background-color: ".toList ++ shade ++ "; color: #fff;".toList

/-- The first two styles of a report are those of its panel; others come from its data. -/
theorem styles_html {r : Response} {color : String} (hr : r.color = some color) :
    styles (tokens {} (html r).toList) =
      borderStyle (cssColor color.toList) :: headStyle (cssColor color.toList) ::
        styles (tokens { lastStart := "p".toList } (newlinesToBreaks r.data.toList ++ footer)) := by
  obtain ⟨ts, hshows, htokens⟩ := tokens_header (r.title.getD "").toList color.toList
  rw [html_eq hr, htokens, styles_append, styles_append, styles_append, styles_opening,
    styles_of_shows hshows]
  rfl

theorem borderStyle_eq (shade : List Char) :
    borderStyle shade = "border-color".toList ++ ':' :: ((' ' :: shade) ++ [';']) := by
  unfold borderStyle
  simp only [String.reduceToList, List.cons_append, List.nil_append]

theorem headStyle_eq (shade : List Char) :
    headStyle shade =
      "background-color".toList ++ ':' :: ((' ' :: shade) ++ "; color: #fff;".toList) := by
  unfold headStyle
  simp only [String.reduceToList, List.cons_append, List.nil_append]

/-- The properties of the styles are names throughout. -/
theorem isNameable_properties :
    (∀ c ∈ "border-color".toList, isNameable c = true) ∧
      ∀ c ∈ "background-color".toList, isNameable c = true :=
  ⟨List.all_eq_true.mp rfl, List.all_eq_true.mp rfl⟩

theorem semicolon_not_mem_shade (color : List Char) : ';' ∉ ' ' :: cssColor color := by
  have h := semicolon_not_mem_cssColor color
  simp [h]

theorem openBehind_shade (color : List Char) :
    openBehind 0 (' ' :: cssColor color) = openBehind 0 color := openBehind_cssColor 0 color

theorem declarations_borderStyle (color : List Char) :
    ∃ value, declarations (borderStyle (cssColor color)) = [⟨"border-color".toList, value⟩] ∧
      (IsClosed color → value = strip (cssColor color)) := by
  have hsemicolon := semicolon_not_mem_shade color
  have hbehind : declarations [] = [] := rfl
  rw [borderStyle_eq]
  by_cases h : openBehind 0 color = 0
  · rw [declarations_of_closed (by decide) isNameable_properties.1 hsemicolon
      ((openBehind_shade color).trans h), hbehind, strip_cons_space]
    exact ⟨_, rfl, fun _ => rfl⟩
  · rw [declarations_of_open (by decide) isNameable_properties.1 hsemicolon
      (fun hs => h ((openBehind_shade color).symm.trans hs)) (by decide)]
    exact ⟨_, rfl, fun hclosed => absurd (isClosed_iff.mp hclosed) h⟩

theorem declarations_headStyle_of_closed {color : List Char} (h : IsClosed color) :
    declarations (headStyle (cssColor color)) =
      [⟨"background-color".toList, strip (cssColor color)⟩, ⟨"color".toList, "#fff".toList⟩] := by
  have hsemicolon : "; color: #fff;".toList = ';' :: " color: #fff;".toList := by
    simp only [String.reduceToList]
  have hbehind : declarations " color: #fff;".toList = [⟨"color".toList, "#fff".toList⟩] := by
    decide
  rw [headStyle_eq, hsemicolon, declarations_of_closed (by decide) isNameable_properties.2
    (semicolon_not_mem_shade color) ((openBehind_shade color).trans (isClosed_iff.mp h)),
    hbehind, strip_cons_space]

theorem declarations_headStyle_of_open {color : List Char} (h : ¬ IsClosed color) :
    declarations (headStyle (cssColor color)) =
      [⟨"background-color".toList, strip (cssColor color ++ "; color: #fff;".toList)⟩] := by
  rw [headStyle_eq, declarations_of_open (by decide) isNameable_properties.2
    (semicolon_not_mem_shade color)
    (fun hs => h (isClosed_iff.mpr ((openBehind_shade color).symm.trans hs))) (by decide),
    List.cons_append, strip_cons_space]

/-- **What the styles of a report declare.** The first two styles of a coloured report are those of
its panel; all others are in the markup of its data. The style of the border declares the border's
colour and nothing else. The style of the head declares its background and the colour of its text
if and only if the colour of the report closes each parenthesis that it opens; otherwise it
declares the background alone, and what should be the text's colour is part of its value. -/
theorem styles_declare (r : Response) (color : String) (hr : r.color = some color) :
    let shade := cssColor color.toList
    ∃ border head more, styles (tokens {} (html r).toList) = border :: head :: more ∧
      more = styles (tokens { lastStart := "p".toList }
        (newlinesToBreaks r.data.toList ++ footer)) ∧
      (∃ value, declarations border = [⟨"border-color".toList, value⟩] ∧
        (IsClosed color.toList → value = strip shade)) ∧
      (declarations head = [⟨"background-color".toList, strip shade⟩,
        ⟨"color".toList, "#fff".toList⟩] ↔ IsClosed color.toList) ∧
      (¬ IsClosed color.toList → declarations head =
        [⟨"background-color".toList, strip (shade ++ "; color: #fff;".toList)⟩]) := by
  intro shade
  refine ⟨_, _, _, styles_html hr, rfl, declarations_borderStyle color.toList, ?_,
    declarations_headStyle_of_open⟩
  constructor
  · intro htwo
    by_cases hclosed : IsClosed color.toList
    · exact hclosed
    · rw [declarations_headStyle_of_open hclosed] at htwo
      exact absurd (congrArg List.length htwo) (by simp only [List.length_cons]; decide)
  · exact declarations_headStyle_of_closed

/-- A report in a colour that is written as a function of three numbers. -/
def functional : Response := { data := "<p style=\"x\">", color := some "rgb(221, 81, 76)" }

/-- The numbers stay in their declarations. -/
theorem styles_functional :
    functional.color = some "rgb(221, 81, 76)" ∧
    ∃ border head more, styles (tokens {} (html functional).toList) = border :: head :: more ∧
      declarations border = [⟨"border-color".toList, "rgb(221, 81, 76)".toList⟩] ∧
      declarations head = [⟨"background-color".toList, "rgb(221, 81, 76)".toList⟩,
        ⟨"color".toList, "#fff".toList⟩] := by
  have hcolor : functional.color = some "rgb(221, 81, 76)" := rfl
  have hclosed : IsClosed "rgb(221, 81, 76)".toList := by decide
  obtain ⟨border, head, more, hstyles, -, ⟨value, hborder, hvalue⟩, hhead, -⟩ :=
    styles_declare functional _ hcolor
  refine ⟨hcolor, border, head, more, hstyles, ?_, ?_⟩
  · rw [hborder, hvalue hclosed]
    decide
  · rw [hhead.mpr hclosed]
    decide

/-- A colour that leaves a parenthesis open takes the colour of the text with it. -/
theorem styles_unclosed :
    ∃ border head more, styles (tokens {} (html { data := "x", color := some "rgb(" }).toList) =
        border :: head :: more ∧
      declarations head = [⟨"background-color".toList, "rgb(; color: #fff;".toList⟩] := by
  refine ⟨_, _, _, styles_html rfl, ?_⟩
  decide

end TaintClient.Report

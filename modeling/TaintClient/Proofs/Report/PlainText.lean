/-
  The text of a report, told from its title and from what its markup shows. The lines shown are
  printed one by one under the title (`IsPlainText`). What a reader wants to know of the result
  follows from that alone: nothing visible is lost, added or moved, lines have no blanks at their
  ends, and the text ends in one line feed.

  The line feeds that are cut off at the end can be those of the heading, and of the title itself.
-/
import Mathlib.Data.List.Forall2
import TaintClient.Report.PlainText
import TaintClient.Proofs.Text.Lines

namespace TaintClient.Report

open Text

/-- `IsPrinted l l'`: the line `l` appears as `l'`, with ordinary spaces and without the blanks at
its end. -/
def IsPrinted (l l' : List Char) : Prop :=
  ∃ blanks, l.map plainSpace = l' ++ blanks ∧ (∀ c ∈ blanks, isBlank c) ∧
    ∀ c, l'.getLast? = some c → isBlank c = false

/-- `IsPlainText title shown out`: under a title, markup that shows the text `shown` gives `out`.
Every line shown is printed on a line of its own, and of the line feeds at the end all but one are
cut off. -/
def IsPlainText (title : Option String) (shown out : List Char) : Prop :=
  ∃ ls printed surplus, IsLines shown ls ∧ List.Forall₂ IsPrinted ls printed ∧
    heading title ++ printed.flatMap (· ++ ['\n']) = out ++ List.replicate surplus '\n' ∧
    (0 < surplus → out.getLast? = some '\n') ∧ ¬ ['\n', '\n'] <:+ out

/-- The characters that leave a mark. -/
def visible (s : List Char) : List Char := s.filter (!isBlank ·)

@[simp] theorem visible_append (s t : List Char) : visible (s ++ t) = visible s ++ visible t :=
  List.filter_append s t

theorem visible_of_blank {s : List Char} (h : ∀ c ∈ s, isBlank c) : visible s = [] := by
  rw [visible, List.filter_eq_nil_iff]
  simpa using h

/-! ## The text that is printed -/

theorem plainSpace_eq_newline (c : Char) : plainSpace c = '\n' ↔ c = '\n' := by
  unfold plainSpace
  split <;> simp_all

theorem plainSpace_eq_return (c : Char) : plainSpace c = '\r' ↔ c = '\r' := by
  unfold plainSpace
  split <;> simp_all

theorem plainSpace_ne (c : Char) : plainSpace c ≠ '\u00A0' := by
  unfold plainSpace
  split
  · decide
  · assumption

theorem isPrinted_trimEnd (l : List Char) : IsPrinted l (trimEnd (l.map plainSpace)) :=
  exists_dropEnd_append isBlank (l.map plainSpace)

theorem endOnce_append_replicate {s : List Char} (h : s.getLast? ≠ some '\n') (k : Nat) :
    endOnce (s ++ List.replicate k '\n') = s ++ List.replicate (min k 1) '\n' := by
  have hstop : s.reverse.takeWhile (· = '\n') = [] := by
    obtain rfl | ⟨s, c, rfl⟩ := List.eq_nil_or_concat s
    · rfl
    · have hc : c ≠ '\n' := by simpa using h
      rw [List.concat_eq_append, List.reverse_append, List.reverse_singleton,
        List.singleton_append, List.takeWhile_cons_of_neg (by simpa using hc)]
  have hrun : (s ++ List.replicate k '\n').reverse.takeWhile (· = '\n') =
      List.replicate k '\n' := by
    rw [List.reverse_append, List.reverse_replicate,
      List.takeWhile_append_of_pos (by simp +contextual), hstop, List.append_nil]
  unfold endOnce
  rw [hrun]
  match k with
  | 0 => rfl
  | 1 => rfl
  | k + 2 =>
    have hcut : dropEnd (· = '\n') (s ++ List.replicate (k + 2) '\n') = s := by
      rw [dropEnd_append_of_all s _ (by simp +contextual)]
      refine dropEnd_eq_self fun c hc => decide_eq_false fun hn => h (hn ▸ hc)
    have hmin : min (k + 2) 1 = 1 := by omega
    simp only [List.replicate_succ] at hcut ⊢
    rw [hcut, hmin, List.replicate_succ, List.replicate_zero]

/-- What is cut off is all but one of the line feeds at the end. -/
theorem exists_endOnce_append (s : List Char) :
    ∃ surplus, s = endOnce s ++ List.replicate surplus '\n' ∧
      (0 < surplus → (endOnce s).getLast? = some '\n') ∧ ¬ ['\n', '\n'] <:+ endOnce s := by
  obtain ⟨t, hs, ht, hlast⟩ := exists_dropEnd_append (· = '\n') s
  generalize dropEnd (· = '\n') s = u at hs hlast
  have hu : u.getLast? ≠ some '\n' := fun h => by simpa using hlast _ h
  obtain ⟨k, rfl⟩ : ∃ k, t = List.replicate k '\n' :=
    ⟨t.length, List.eq_replicate_iff.mpr ⟨rfl, fun c hc => by simpa using ht c hc⟩⟩
  subst hs
  rw [endOnce_append_replicate hu]
  refine ⟨k - min k 1, ?_, fun hk => ?_, ?_⟩
  · rw [List.append_assoc, List.replicate_append_replicate]
    congr 2
    omega
  · have hmin : min k 1 = 1 := by omega
    simp [hmin]
  · rintro ⟨v, hv⟩
    obtain hmin | hmin : min k 1 = 0 ∨ min k 1 = 1 := by omega
    · rw [hmin, List.replicate_zero, List.append_nil] at hv
      exact hu (by simp [← hv])
    · rw [hmin, List.replicate_one, ← List.singleton_append, ← List.append_assoc] at hv
      have hvu : v ++ ['\n'] = u := List.append_cancel_right hv
      exact hu (by simp [← hvu])

/-- What is left when all but one of the line feeds at the end are cut off. -/
theorem endOnce_eq {s : List Char} {surplus : Nat}
    (hsome : 0 < surplus → s.getLast? = some '\n') (hend : ¬ ['\n', '\n'] <:+ s) :
    endOnce (s ++ List.replicate surplus '\n') = s := by
  by_cases hs : s.getLast? = some '\n'
  · obtain ⟨u, rfl⟩ := List.getLast?_eq_some_iff.mp hs
    have hu : u.getLast? ≠ some '\n' := by
      intro hu
      obtain ⟨v, rfl⟩ := List.getLast?_eq_some_iff.mp hu
      exact hend ⟨v, by simp⟩
    have hmin : min (surplus + 1) 1 = 1 := by omega
    rw [List.append_assoc, List.singleton_append, ← List.replicate_succ,
      endOnce_append_replicate hu, hmin, List.replicate_one]
  · obtain rfl : surplus = 0 := by
      by_contra h
      exact hs (hsome (Nat.pos_of_ne_zero h))
    rw [endOnce_append_replicate hs, Nat.zero_min, List.replicate_zero, List.append_nil]

theorem IsPrinted.eq_trimEnd {l l' : List Char} (h : IsPrinted l l') :
    l' = trimEnd (l.map plainSpace) := by
  obtain ⟨blanks, hl, hblanks, hlast⟩ := h
  rw [hl, trimEnd, dropEnd_append_of_all l' blanks hblanks, dropEnd_eq_self hlast]

theorem forall₂_isPrinted_iff {ls printed : List (List Char)} :
    List.Forall₂ IsPrinted ls printed ↔ printed = ls.map fun l => trimEnd (l.map plainSpace) := by
  constructor
  · intro h
    induction h with
    | nil => rfl
    | cons hp _ ih => rw [List.map_cons, hp.eq_trimEnd, ih]
  · rintro rfl
    rw [List.forall₂_map_right_iff, List.forall₂_same]
    exact fun l _ => isPrinted_trimEnd l

theorem bodyText_eq {markup : List Char} {ls : List (List Char)}
    (h : IsLines (Markup.plainText markup) ls) :
    bodyText markup =
      (ls.map fun l => trimEnd (l.map plainSpace)).flatMap (· ++ ['\n']) := by
  have hlines := isLines_iff.mp (h.map plainSpace_eq_newline plainSpace_eq_return)
  simp only [bodyText, hlines, List.flatMap_map]

/-- The description fits one text only, the one that is made. -/
theorem isPlainText_iff {r : Response} {out : List Char} :
    IsPlainText r.title (Markup.plainText r.data.toList) out ↔ out = (plainText r).toList := by
  rw [plainText, String.toList_ofList]
  constructor
  · rintro ⟨ls, printed, surplus, hls, hprinted, hout, hsome, hend⟩
    rw [bodyText_eq hls, ← forall₂_isPrinted_iff.mp hprinted, hout, endOnce_eq hsome hend]
  · rintro rfl
    have hls : IsLines (Markup.plainText r.data.toList) _ := isLines_iff.mpr rfl
    obtain ⟨surplus, hcut, hsome, hend⟩ :=
      exists_endOnce_append (heading r.title ++ bodyText r.data.toList)
    exact ⟨_, _, surplus, hls, forall₂_isPrinted_iff.mpr rfl, by rw [← hcut, bodyText_eq hls],
      hsome, hend⟩

/-! ## What follows for the result -/

theorem visible_map_plainSpace (s : List Char) : visible (s.map plainSpace) = visible s := by
  induction s with
  | nil => rfl
  | cons c s ih =>
    rw [← List.singleton_append, List.map_append, visible_append, visible_append, ih]
    by_cases hc : c = '\u00A0'
    · subst hc
      rfl
    · simp [plainSpace, hc]

theorem IsPrinted.visible_eq {l l' : List Char} (h : IsPrinted l l') : visible l' = visible l := by
  obtain ⟨blanks, hl, hblanks, -⟩ := h
  rw [← visible_map_plainSpace l, hl, visible_append, visible_of_blank hblanks, List.append_nil]

theorem visible_newline (s : List Char) : visible ('\n' :: s) = visible s := rfl

theorem visible_return (s : List Char) : visible ('\r' :: s) = visible s := rfl

theorem visible_lines {s : List Char} {ls printed : List (List Char)} (h : IsLines s ls)
    (hprinted : List.Forall₂ IsPrinted ls printed) :
    visible (printed.flatMap (· ++ ['\n'])) = visible s := by
  have hline : ∀ {l l' : List Char}, IsPrinted l l' → visible (l' ++ ['\n']) = visible l := by
    intro l l' hp
    rw [visible_append, visible_newline, hp.visible_eq]
    exact List.append_nil _
  induction h generalizing printed with
  | empty =>
    cases hprinted
    rfl
  | last =>
    cases hprinted with
    | cons hp hrest =>
      cases hrest
      rw [List.flatMap_cons, List.flatMap_nil, List.append_nil, hline hp]
  | feed _ _ _ ih =>
    cases hprinted with
    | cons hp hrest =>
      rw [List.flatMap_cons, visible_append, hline hp, ih hrest, visible_append, visible_newline]
  | returnFeed _ _ ih =>
    cases hprinted with
    | cons hp hrest =>
      rw [List.flatMap_cons, visible_append, hline hp, ih hrest, visible_append, visible_return,
        visible_newline]

theorem visible_heading (title : Option String) :
    visible (heading title) = visible (title.getD "").toList := by
  have hfeeds : visible ['\n', '\n'] = [] := rfl
  unfold heading
  cases title with
  | none => rfl
  | some title =>
    by_cases ht : title.isEmpty
    · rw [String.isEmpty_iff.mp ht]
      rfl
    · simp [ht, hfeeds]

/-- A line as it may stand in the text of a report. -/
def IsTidy (l : List Char) : Prop :=
  '\u00A0' ∉ l ∧ ∀ c, l.getLast? = some c → isBlank c = false

theorem IsPrinted.isTidy {l l' : List Char} (h : IsPrinted l l') : IsTidy l' := by
  obtain ⟨blanks, hl, -, hlast⟩ := h
  refine ⟨fun hm => ?_, hlast⟩
  have hmap : '\u00A0' ∈ l.map plainSpace := hl ▸ List.mem_append_left _ hm
  obtain ⟨c, -, hc⟩ := List.mem_map.mp hmap
  exact plainSpace_ne c hc

theorem IsPrinted.not_mem {l l' : List Char} (h : IsPrinted l l') (hl : '\n' ∉ l) : '\n' ∉ l' := by
  obtain ⟨blanks, heq, -, -⟩ := h
  intro hm
  have hmap : '\n' ∈ l.map plainSpace := heq ▸ List.mem_append_left _ hm
  obtain ⟨c, hc, hn⟩ := List.mem_map.mp hmap
  exact hl ((plainSpace_eq_newline c).mp hn ▸ hc)

theorem heading_eq_nil_iff (title : Option String) :
    heading title = [] ↔ title = none ∨ title = some "" := by
  unfold heading
  cases title with
  | none => simp
  | some title =>
    by_cases ht : title.isEmpty
    · simp [String.isEmpty_iff.mp ht]
    · have hne : title ≠ "" := fun h => ht (String.isEmpty_iff.mpr h)
      simp [ht, hne]

theorem getLast?_heading {title : Option String} (h : heading title ≠ []) :
    (heading title).getLast? = some '\n' := by
  unfold heading at *
  cases title with
  | none => exact absurd rfl h
  | some title =>
    by_cases ht : title.isEmpty
    · simp [ht] at h
    · simp [ht]

theorem exists_of_mem_forall₂ {ls printed : List (List Char)} {l' : List Char}
    (h : List.Forall₂ IsPrinted ls printed) (hl : l' ∈ printed) : ∃ l ∈ ls, IsPrinted l l' := by
  induction h with
  | nil => exact absurd hl List.not_mem_nil
  | @cons l _ _ _ hp _ ih =>
    obtain rfl | hl := List.mem_cons.mp hl
    · exact ⟨l, List.mem_cons_self, hp⟩
    · obtain ⟨m, hm, hp⟩ := ih hl
      exact ⟨m, List.mem_cons_of_mem _ hm, hp⟩

namespace IsPlainText

variable {title : Option String} {shown out : List Char}

/-- Nothing visible is lost, added or moved. -/
theorem visible_eq (h : IsPlainText title shown out) :
    visible out = visible ((title.getD "").toList ++ shown) := by
  obtain ⟨ls, printed, surplus, hls, hprinted, hout, -, -⟩ := h
  have hcut : visible (List.replicate surplus '\n') = [] :=
    visible_of_blank fun c hc => (List.eq_of_mem_replicate hc) ▸ rfl
  have hall := congrArg visible hout
  simp only [visible_append, visible_heading, visible_lines hls hprinted, hcut,
    List.append_nil] at hall
  rw [visible_append, hall]

/-- Every line behind the heading is tidy. -/
theorem isTidy (h : IsPlainText title shown out) :
    ∀ l ∈ pieces (out.drop (heading title).length), IsTidy l := by
  obtain ⟨ls, printed, surplus, hls, hprinted, hout, -, -⟩ := h
  have hempty : IsTidy [] := ⟨List.not_mem_nil, by simp⟩
  have hbody : ∀ l ∈ pieces (printed.flatMap (· ++ ['\n'])), IsTidy l := by
    have hnot : ∀ l ∈ printed, '\n' ∉ l := by
      intro l hl
      obtain ⟨m, hm, hp⟩ := exists_of_mem_forall₂ hprinted hl
      exact hp.not_mem (hls.not_mem m hm)
    rw [pieces_flatMap hnot]
    intro l hl
    obtain hl | hl := List.mem_append.mp hl
    · obtain ⟨_, _, hp⟩ := exists_of_mem_forall₂ hprinted hl
      exact hp.isTidy
    · exact List.mem_singleton.mp hl ▸ hempty
  obtain ⟨rest, hcut, hrest⟩ | ⟨rest, hcut, -⟩ := List.append_eq_append_iff.mp hout
  · rw [hcut, List.drop_left]
    exact fun l hl => hbody l (hrest ▸ mem_pieces_append_replicate surplus hl)
  · -- the line feeds that were cut off reached into the heading, and nothing is behind it
    have hlen : out.length ≤ (heading title).length := by simp [hcut]
    rw [List.drop_eq_nil_of_le hlen]
    exact fun l hl => List.mem_singleton.mp hl ▸ hempty

/-- The text is empty or ends in a line feed. -/
theorem eq_nil_or_getLast? (h : IsPlainText title shown out) :
    out = [] ∨ out.getLast? = some '\n' := by
  obtain ⟨ls, printed, surplus, -, -, hout, hsome, -⟩ := h
  cases surplus with
  | succ k => exact .inr (hsome (Nat.succ_pos k))
  | zero =>
    rw [List.replicate_zero, List.append_nil] at hout
    rw [← hout]
    obtain rfl | ⟨printed, l, rfl⟩ := List.eq_nil_or_concat printed
    · rw [List.flatMap_nil, List.append_nil]
      by_cases hne : heading title = []
      · exact .inl hne
      · exact .inr (getLast?_heading hne)
    · simp

/-- There is text unless there is neither a title nor anything shown. -/
theorem eq_nil_iff (h : IsPlainText title shown out) :
    out = [] ↔ shown = [] ∧ (title = none ∨ title = some "") := by
  obtain ⟨ls, printed, surplus, hls, hprinted, hout, hsome, -⟩ := h
  rw [← heading_eq_nil_iff, ← hls.eq_nil_iff]
  constructor
  · rintro rfl
    cases surplus with
    | succ k => exact absurd (hsome (Nat.succ_pos k)) (by simp)
    | zero =>
      obtain ⟨hheading, hbody⟩ := List.append_eq_nil_iff.mp hout
      cases hprinted with
      | nil => exact ⟨rfl, hheading⟩
      | cons => simp at hbody
  · rintro ⟨rfl, hheading⟩
    cases hprinted
    rw [hheading] at hout
    exact (List.append_eq_nil_iff.mp hout.symm).1

end IsPlainText

/-! ## The text of every response -/

/-- **The text of a report.** For every response, the lines that its markup shows are printed one
by one under its title, with ordinary spaces and without the blanks at their ends, and of the line
feeds at the end all but one are cut off; that describes one text. So nothing visible is lost,
added or moved; the lines behind the heading are tidy; and the text ends in exactly one line feed,
or is empty because there was neither a title nor anything to show. -/
theorem plainText_faithful (r : Response) :
    let shown := Markup.plainText r.data.toList
    let out := (plainText r).toList
    (∀ s, IsPlainText r.title shown s ↔ s = out) ∧
      visible out = visible ((r.title.getD "").toList ++ shown) ∧
      (∀ l ∈ pieces (out.drop (heading r.title).length), IsTidy l) ∧
      ¬ ['\n', '\n'] <:+ out ∧ (out = [] ∨ out.getLast? = some '\n') ∧
      (out = [] ↔ shown = [] ∧ (r.title = none ∨ r.title = some "")) := by
  intro shown out
  have h : IsPlainText r.title shown out := isPlainText_iff.mpr rfl
  refine ⟨fun s => isPlainText_iff, h.visible_eq, h.isTidy, ?_, h.eq_nil_or_getLast?,
    h.eq_nil_iff⟩
  obtain ⟨_, _, _, _, _, _, _, hend⟩ := h
  exact hend

end TaintClient.Report

/-
  What becomes of line breaks. Each line feed and each carriage return becomes an element of its
  own, wherever it stands, so a text may be taken in parts (`newlinesToBreaks_append`), and there
  is nothing left to do a second time.

  The data may hold such elements itself, and then they are not told from those of line breaks.
  Without a less-than sign in the data they are: every element stands for a line break, and reading
  it as one (`breaksToNewlines`) gives the text back, all but the kind of its line breaks.
-/
import TaintClient.Report.Html

namespace TaintClient.Report

variable {s : List Char}

/-! ## One way -/

theorem newlinesToBreaks_append (a b : List Char) :
    newlinesToBreaks (a ++ b) = newlinesToBreaks a ++ newlinesToBreaks b := by
  induction a with
  | nil => rfl
  | cons c a ih =>
    rw [List.cons_append, newlinesToBreaks, newlinesToBreaks, ih]
    split
    · rfl
    · rfl

/-- No line break is left. -/
theorem not_mem_newlinesToBreaks (s : List Char) :
    '\n' ∉ newlinesToBreaks s ∧ '\r' ∉ newlinesToBreaks s := by
  induction s with
  | nil => exact ⟨List.not_mem_nil, List.not_mem_nil⟩
  | cons c s ih =>
    rw [newlinesToBreaks]
    split
    · simpa using ih
    · rename_i hc
      rw [not_or] at hc
      simpa [Ne.symm hc.1, Ne.symm hc.2] using ih

/-- Without line breaks a text stays as it is. -/
theorem newlinesToBreaks_of_not_mem (hline : '\n' ∉ s) (hreturn : '\r' ∉ s) :
    newlinesToBreaks s = s := by
  induction s with
  | nil => rfl
  | cons c s ih =>
    rw [List.mem_cons, not_or] at hline hreturn
    rw [newlinesToBreaks, if_neg (not_or.mpr ⟨Ne.symm hline.1, Ne.symm hreturn.1⟩),
      ih hline.2 hreturn.2]

/-- Where no element came of a line break, there was none. -/
theorem newlinesToBreaks_of_less_not_mem (h : '<' ∉ newlinesToBreaks s) :
    newlinesToBreaks s = s := by
  induction s with
  | nil => rfl
  | cons c s ih =>
    rw [newlinesToBreaks] at h ⊢
    split at h
    · exact absurd List.mem_cons_self h
    · rename_i hc
      rw [if_neg hc, ih fun hs => h (List.mem_cons_of_mem c hs)]

/-! ## And back -/

/-- The text with every carriage return written as a line feed. -/
def lineFeeds (s : List Char) : List Char := s.map fun c => if c = '\r' then '\n' else c

/-- Every break element becomes a line feed. -/
def breaksToNewlines : List Char → List Char
  | [] => []
  | '<' :: 'b' :: 'r' :: '>' :: s => '\n' :: breaksToNewlines s
  | c :: s => c :: breaksToNewlines s

theorem breaksToNewlines_cons {c : Char} (hc : c ≠ '<') (s : List Char) :
    breaksToNewlines (c :: s) = c :: breaksToNewlines s := by
  rw [breaksToNewlines]
  rintro t rfl
  exact absurd rfl hc

/-- The kind of a line break does not show. -/
theorem newlinesToBreaks_lineFeeds (s : List Char) :
    newlinesToBreaks (lineFeeds s) = newlinesToBreaks s := by
  induction s with
  | nil => rfl
  | cons c s ih =>
    rw [lineFeeds, List.map_cons, newlinesToBreaks, newlinesToBreaks, ← lineFeeds, ih]
    by_cases hreturn : c = '\r'
    · rw [if_pos hreturn, if_pos (.inl rfl), if_pos (.inr hreturn)]
    · rw [if_neg hreturn]

/-- Where every element stands for a line break, the text comes back with line feeds. -/
theorem breaksToNewlines_newlinesToBreaks (h : '<' ∉ s) :
    breaksToNewlines (newlinesToBreaks s) = lineFeeds s := by
  induction s with
  | nil => rfl
  | cons c s ih =>
    rw [List.mem_cons, not_or] at h
    rw [newlinesToBreaks, lineFeeds, List.map_cons, ← lineFeeds, ← ih h.2]
    split
    · rename_i hc
      rw [breaksToNewlines]
      obtain rfl | rfl := hc
      · rfl
      · rfl
    · rename_i hc
      rw [if_neg fun hreturn => hc (.inr hreturn), breaksToNewlines_cons (Ne.symm h.1)]

/-- Texts without a less-than sign are told apart by what becomes of them, but for the kind of their
line breaks. -/
theorem newlinesToBreaks_eq_iff {a b : List Char} (ha : '<' ∉ a) (hb : '<' ∉ b) :
    newlinesToBreaks a = newlinesToBreaks b ↔ lineFeeds a = lineFeeds b := by
  constructor
  · intro h
    rw [← breaksToNewlines_newlinesToBreaks ha, h, breaksToNewlines_newlinesToBreaks hb]
  · intro h
    rw [← newlinesToBreaks_lineFeeds a, h, newlinesToBreaks_lineFeeds]

/-- **Line breaks as elements.** What becomes of a text is what becomes of its parts, so a carriage
return with a line feed behind it is two breaks; there is no line break in it, and a second time
changes nothing. Two texts without a less-than sign become the same exactly if they differ in the
kind of their line breaks only. -/
theorem newlinesToBreaks_faithful (a b : List Char) :
    newlinesToBreaks (a ++ b) = newlinesToBreaks a ++ newlinesToBreaks b ∧
    newlinesToBreaks (a ++ '\r' :: '\n' :: b) =
      newlinesToBreaks a ++ "<br><br>".toList ++ newlinesToBreaks b ∧
    ('\n' ∉ newlinesToBreaks a ∧ '\r' ∉ newlinesToBreaks a) ∧
    newlinesToBreaks (newlinesToBreaks a) = newlinesToBreaks a ∧
    ('<' ∉ a → '<' ∉ b →
      (newlinesToBreaks a = newlinesToBreaks b ↔ lineFeeds a = lineFeeds b)) := by
  have hnone := not_mem_newlinesToBreaks a
  refine ⟨newlinesToBreaks_append a b, ?_, hnone, newlinesToBreaks_of_not_mem hnone.1 hnone.2,
    newlinesToBreaks_eq_iff⟩
  rw [newlinesToBreaks_append, List.append_assoc]
  rfl

/-- A carriage return and a line feed are no longer told from two line feeds, but from one they
are. -/
theorem newlinesToBreaks_mixed :
    '<' ∉ "a\r\nb".toList ∧ '<' ∉ "a\n\nb".toList ∧ '<' ∉ "a\nb".toList ∧
      newlinesToBreaks "a\r\nb".toList = newlinesToBreaks "a\n\nb".toList ∧
      newlinesToBreaks "a\r\nb".toList ≠ newlinesToBreaks "a\nb".toList := by
  have hmixed : '<' ∉ "a\r\nb".toList := by decide
  have htwo : '<' ∉ "a\n\nb".toList := by decide
  have hone : '<' ∉ "a\nb".toList := by decide
  refine ⟨hmixed, htwo, hone, ?_, fun h => ?_⟩
  · exact ((newlinesToBreaks_faithful _ _).2.2.2.2 hmixed htwo).mpr (by decide)
  · have := ((newlinesToBreaks_faithful _ _).2.2.2.2 hmixed hone).mp h
    exact absurd this (by decide)

end TaintClient.Report

/-
  The lines of a text, and its end without the characters that are cut off there. Lines are
  described by how a text is put together from them (`IsLines`); every text is put together so
  in exactly one way, and splitting finds it (`isLines_iff`).
-/
import Mathlib.Data.List.Induction
import TaintClient.Text.Blank

namespace TaintClient.Text

/-! ## Pieces between line feeds -/

theorem pieces_of_not_mem {l : List Char} (h : '\n' ∉ l) : pieces l = [l] := by
  unfold pieces
  induction l with
  | nil => rfl
  | cons c l ih =>
    rw [List.mem_cons, not_or] at h
    rw [split, if_neg (Ne.symm h.1), ih h.2]

theorem pieces_append_newline {l : List Char} (h : '\n' ∉ l) (s : List Char) :
    pieces (l ++ '\n' :: s) = l :: pieces s := by
  unfold pieces
  induction l with
  | nil => rfl
  | cons c l ih =>
    rw [List.mem_cons, not_or] at h
    rw [List.cons_append, split, if_neg (Ne.symm h.1), ih h.2]

/-- A text is free of line feeds, or a first line feed divides it. -/
theorem exists_first_newline (s : List Char) :
    '\n' ∉ s ∨ ∃ l t, s = l ++ '\n' :: t ∧ '\n' ∉ l := by
  by_cases h : '\n' ∈ s
  · exact .inr (List.eq_append_cons_of_mem h)
  · exact .inl h

/-- Line feeds added at the end take no piece away. -/
theorem mem_pieces_append_replicate {s p : List Char} (k : Nat) (hp : p ∈ pieces s) :
    p ∈ pieces (s ++ List.replicate k '\n') := by
  induction h : s.length using Nat.strongRecOn generalizing s with
  | _ n ih =>
    obtain hs | ⟨l, t, rfl, hl⟩ := exists_first_newline s
    · rw [pieces_of_not_mem hs, List.mem_singleton] at hp
      subst hp
      cases k with
      | zero => simp [pieces_of_not_mem hs]
      | succ k =>
        rw [List.replicate_succ, pieces_append_newline hs]
        exact List.mem_cons_self
    · rw [pieces_append_newline hl] at hp
      rw [List.append_assoc, List.cons_append, pieces_append_newline hl]
      obtain rfl | hp := List.mem_cons.mp hp
      · exact List.mem_cons_self
      · exact List.mem_cons_of_mem _ (ih t.length (by simp at h; omega) hp rfl)

/-- The pieces of lines that are each ended by a line feed are the lines, and the empty piece
behind the last line feed. -/
theorem pieces_flatMap {ls : List (List Char)} (h : ∀ l ∈ ls, '\n' ∉ l) :
    pieces (ls.flatMap (· ++ ['\n'])) = ls ++ [[]] := by
  induction ls with
  | nil => rfl
  | cons l ls ih =>
    rw [List.forall_mem_cons] at h
    rw [List.flatMap_cons, List.append_assoc, List.singleton_append,
      pieces_append_newline h.1, ih h.2, List.cons_append]

/-! ## Lines -/

/-- `IsLines s ls`: the text `s` is made of the lines `ls`. A line feed ends a line and takes one
carriage return in front of it along; what follows the last line feed is a line unless it is
empty. -/
inductive IsLines : List Char → List (List Char) → Prop
  | empty : IsLines [] []
  | last {l : List Char} : l ≠ [] → '\n' ∉ l → IsLines l [l]
  | feed {l s : List Char} {ls : List (List Char)} :
      '\n' ∉ l → l.getLast? ≠ some '\r' → IsLines s ls → IsLines (l ++ '\n' :: s) (l :: ls)
  | returnFeed {l s : List Char} {ls : List (List Char)} :
      '\n' ∉ l → IsLines s ls → IsLines (l ++ '\r' :: '\n' :: s) (l :: ls)

theorem IsLines.not_mem {s : List Char} {ls : List (List Char)} (h : IsLines s ls) :
    ∀ l ∈ ls, '\n' ∉ l := by
  induction h with
  | empty => simp
  | last _ hl => simpa using hl
  | feed hl _ _ ih => exact List.forall_mem_cons.mpr ⟨hl, ih⟩
  | returnFeed hl _ ih => exact List.forall_mem_cons.mpr ⟨hl, ih⟩

theorem IsLines.eq_nil_iff {s : List Char} {ls : List (List Char)} (h : IsLines s ls) :
    ls = [] ↔ s = [] := by
  cases h <;> simp_all

theorem dropReturn_append_return (l : List Char) : dropReturn (l ++ ['\r']) = l := by
  induction l with
  | nil => rfl
  | cons c l ih =>
    have hne : l ++ ['\r'] ≠ [] := by simp
    rw [List.cons_append, dropReturn, ih]
    exact fun _ h => hne h

theorem dropReturn_of_getLast?_ne {l : List Char} (h : l.getLast? ≠ some '\r') :
    dropReturn l = l := by
  induction l with
  | nil => rfl
  | cons c l ih =>
    cases l with
    | nil =>
      have hc : c ≠ '\r' := by simpa using h
      rw [dropReturn]
      · rfl
      · exact fun hr _ => hc hr
    | cons d l =>
      rw [List.getLast?_cons_cons] at h
      rw [dropReturn, ih h]
      exact fun _ h => List.cons_ne_nil _ _ h

theorem lines_of_not_mem {l : List Char} (hne : l ≠ []) (hl : '\n' ∉ l) : lines l = [l] := by
  cases l with
  | nil => exact absurd rfl hne
  | cons c l => simp [lines, pieces_of_not_mem hl]

theorem lines_append_newline {l : List Char} (hl : '\n' ∉ l) (s : List Char) :
    lines (l ++ '\n' :: s) = dropReturn l :: lines s := by
  obtain ⟨p, ps, hps⟩ := List.exists_cons_of_ne_nil (pieces_ne_nil s)
  have hlast : (l :: p :: ps).getLast? = (p :: ps).getLast? := List.getLast?_cons_cons
  unfold lines
  simp only [pieces_append_newline hl, hps, hlast, List.dropLast_cons_cons, List.map_cons]
  split
  · rfl
  · rfl
  · rfl

theorem lines_eq_of_isLines {s : List Char} {ls : List (List Char)} (h : IsLines s ls) :
    lines s = ls := by
  induction h with
  | empty => rfl
  | last hne hl => exact lines_of_not_mem hne hl
  | feed hl hr _ ih => rw [lines_append_newline hl, dropReturn_of_getLast?_ne hr, ih]
  | @returnFeed l s ls hl _ ih =>
    have hlr : '\n' ∉ l ++ ['\r'] := by simpa using hl
    rw [← List.singleton_append, ← List.append_assoc, lines_append_newline hlr,
      dropReturn_append_return, ih]

theorem isLines_lines (s : List Char) : IsLines s (lines s) := by
  induction h : s.length using Nat.strongRecOn generalizing s with
  | _ n ih =>
    obtain hs | ⟨l, t, rfl, hl⟩ := exists_first_newline s
    · cases s with
      | nil => exact .empty
      | cons c s =>
        rw [lines_of_not_mem (List.cons_ne_nil _ _) hs]
        exact .last (List.cons_ne_nil _ _) hs
    · have hrest : IsLines t (lines t) := ih t.length (by simp at h; omega) t rfl
      rw [lines_append_newline hl]
      by_cases hr : l.getLast? = some '\r'
      · obtain ⟨l, rfl⟩ := List.getLast?_eq_some_iff.mp hr
        rw [dropReturn_append_return, List.append_assoc, List.singleton_append]
        exact .returnFeed (fun hm => hl (List.mem_append_left _ hm)) hrest
      · rw [dropReturn_of_getLast?_ne hr]
        exact .feed hl hr hrest

/-- A text has its lines in one way only. -/
theorem isLines_iff {s : List Char} {ls : List (List Char)} : IsLines s ls ↔ lines s = ls :=
  ⟨lines_eq_of_isLines, fun h => h ▸ isLines_lines s⟩

/-- A change of characters that leaves the characters of line ends alone leaves the lines as they
are. -/
theorem IsLines.map {s : List Char} {ls : List (List Char)} {f : Char → Char}
    (hfeed : ∀ c, f c = '\n' ↔ c = '\n') (hreturn : ∀ c, f c = '\r' ↔ c = '\r')
    (h : IsLines s ls) : IsLines (s.map f) (ls.map (List.map f)) := by
  have hmem : ∀ {l : List Char}, '\n' ∉ l → '\n' ∉ l.map f := by
    intro l hl hm
    obtain ⟨c, hc, hf⟩ := List.mem_map.mp hm
    exact hl ((hfeed c).mp hf ▸ hc)
  induction h with
  | empty => exact .empty
  | last hne hl => exact .last (by simpa using hne) (hmem hl)
  | @feed l s ls hl hr _ ih =>
    rw [List.map_append, List.map_cons, (hfeed '\n').mpr rfl]
    refine .feed (hmem hl) ?_ ih
    rw [List.getLast?_map]
    intro h
    obtain ⟨c, hc, hf⟩ := Option.map_eq_some_iff.mp h
    exact hr (hc.trans (congrArg some ((hreturn c).mp hf)))
  | @returnFeed l s ls hl _ ih =>
    rw [List.map_append, List.map_cons, List.map_cons, (hreturn '\r').mpr rfl,
      (hfeed '\n').mpr rfl]
    exact .returnFeed (hmem hl) ih

/-! ## The end of a text -/

theorem dropEnd_eq_self {p : Char → Bool} {s : List Char}
    (h : ∀ c, s.getLast? = some c → p c = false) : dropEnd p s = s := by
  induction s with
  | nil => rfl
  | cons c s ih =>
    cases s with
    | nil => simp [dropEnd, h c rfl]
    | cons d s =>
      rw [dropEnd, ih fun x hx => h x (by rwa [List.getLast?_cons_cons])]

/-- A text is what is left of it and the characters that were cut off. -/
theorem exists_dropEnd_append (p : Char → Bool) (s : List Char) :
    ∃ t, s = dropEnd p s ++ t ∧ (∀ c ∈ t, p c) ∧
      ∀ c, (dropEnd p s).getLast? = some c → p c = false := by
  induction s using List.reverseRecOn with
  | nil => exact ⟨[], rfl, by simp, by simp [dropEnd]⟩
  | append_singleton s c ih =>
    by_cases hc : p c
    · obtain ⟨t, hs, ht, hlast⟩ := ih
      have hdrop : dropEnd p (s ++ [c]) = dropEnd p s :=
        dropEnd_append_of_all s [c] (by simpa using hc)
      refine ⟨t ++ [c], ?_, ?_, hdrop ▸ hlast⟩
      · rw [hdrop, ← List.append_assoc, ← hs]
      · simpa [or_imp, forall_and] using ⟨ht, hc⟩
    · have hlast : ∀ d, (s ++ [c]).getLast? = some d → p d = false := by
        simpa using hc
      rw [dropEnd_eq_self hlast]
      exact ⟨[], (List.append_nil _).symm, by simp, hlast⟩

end TaintClient.Text

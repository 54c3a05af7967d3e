/-
  A text as markup is a text again once its markup is read: parsing what escaping gives, and
  collecting the text of the tree, undoes it (`plainText_escapeText`). It holds for texts that a
  page reads as they are. A null character would be dropped, a carriage return would become a line
  feed, and a mark of byte order at the start is not part of the text.

  The tokens of such markup are text throughout (`tokens_escapeText`), so the tree stays a root
  with texts (`treeOf`). It is enough to follow one token into that tree, then the tokens of one
  step, and then the steps.
-/
import TaintClient.Proofs.Report.Escape
import TaintClient.Proofs.Report.PlainText

namespace TaintClient.Report

open Markup

variable {texts : List (List Char)} {t : Token} {ts : List Token} {r : Reading} {s : List Char}

/-! ## Trees of text alone -/

/-- A tree whose root holds texts, in their order, and nothing else. -/
def treeOf (texts : List (List Char)) : Tree :=
  ⟨#[⟨Tree.rootName, none, texts.reverse.map .text⟩]⟩

theorem text_treeOf (texts : List (List Char)) : (treeOf texts).text = texts.flatten := by
  have hsize : (treeOf texts).nodes.size = 1 := rfl
  have hroot : (treeOf texts).nodes[0]? = some ⟨Tree.rootName, none, texts.reverse.map .text⟩ := rfl
  rw [Tree.text, hsize, Tree.textBelow, hroot]
  simp only [List.map_reverse, List.reverse_reverse, List.flatMap_map, List.flatMap_id']

theorem append_treeOf (texts : List (List Char)) (s : List Char) :
    (treeOf texts).append 0 (.text s) = treeOf (texts ++ [s]) := by
  simp [treeOf, Tree.append, Tree.modify, Tree.claim]

/-- A tree of text alone under construction. -/
def builderOf (texts : List (List Char)) : Builder := { tree := treeOf texts }

theorem addText_builderOf (texts : List (List Char)) (s : List Char) :
    (builderOf texts).addText s = builderOf (texts ++ [s]) := by
  have hplace : (builderOf texts).addText s = { tree := (treeOf texts).append 0 (.text s) } := rfl
  rw [hplace, append_treeOf, builderOf]

/-- The text that a token adds to such a tree. A null character is dropped. -/
def added : Token → List Char
  | .text s => s
  | _ => []

/-- A token that opens and closes nothing adds its text. -/
theorem feed_builderOf (texts : List (List Char)) (ht : isTextual t = true ∨ t = .eof) :
    ∃ texts', (builderOf texts).feed t = (builderOf texts', none) ∧
      texts'.flatten = texts.flatten ++ added t := by
  cases t with
  | text s =>
    cases s with
    | nil => exact ⟨texts, rfl, (List.append_nil _).symm⟩
    | cons c s =>
      have hfeed : (builderOf texts).feed (.text (c :: s)) =
          ((builderOf texts).addText (c :: s), none) := rfl
      rw [hfeed, addText_builderOf]
      exact ⟨_, rfl, by simp [added]⟩
  | null | fault | eof => exact ⟨texts, rfl, (List.append_nil _).symm⟩
  | _ => simp [isTextual] at ht

theorem feedAll_cons (b : Builder) (r : Reading) (t : Token) (ts : List Token) :
    b.feedAll r (t :: ts) =
      (b.feed t).1.feedAll { r with content := (b.feed t).2.getD r.content } ts := rfl

/-- The tokens of a step add their texts, and reading goes on as before. -/
theorem feedAll_builderOf (texts : List (List Char)) (r : Reading)
    (hts : ∀ t ∈ ts, isTextual t = true ∨ t = .eof) :
    ∃ texts', (builderOf texts).feedAll r ts = (builderOf texts', r) ∧
      texts'.flatten = texts.flatten ++ ts.flatMap added := by
  induction ts generalizing texts with
  | nil => exact ⟨texts, rfl, (List.append_nil _).symm⟩
  | cons t ts ih =>
    obtain ⟨texts₁, hfeed, hflat₁⟩ := feed_builderOf texts (hts t List.mem_cons_self)
    obtain ⟨texts₂, hrest, hflat₂⟩ := ih texts₁ fun u hu => hts u (List.mem_cons_of_mem t hu)
    refine ⟨texts₂, ?_, ?_⟩
    · rw [feedAll_cons, hfeed]
      exact hrest
    · rw [hflat₂, hflat₁, List.flatMap_cons, List.append_assoc]

/-- A text whose tokens open and close nothing adds their texts; by induction on the length, one
step after the other. -/
theorem takeText_builderOf (texts : List (List Char)) (r : Reading) (s : List Char)
    (h : ∀ t ∈ tokens r s, isTextual t = true ∨ t = .eof) :
    ∃ texts', (builderOf texts).takeText r s = builderOf texts' ∧
      texts'.flatten = texts.flatten ++ (tokens r s).flatMap added := by
  generalize hn : s.length = n
  induction n using Nat.strongRecOn generalizing texts r s with
  | ind n ih =>
    subst hn
    cases s with
    | nil =>
      rw [Builder.takeText, tokens]
      exact ⟨texts, rfl, (List.append_nil _).symm⟩
    | cons c s =>
      rw [tokens_cons] at h ⊢
      have hlen : (step r false c s).rest.length < (c :: s).length :=
        Nat.lt_succ_of_le (length_step r false c s)
      obtain ⟨texts₁, hstep, hflat₁⟩ := feedAll_builderOf texts (step r false c s).reading
        fun t ht => h t (List.mem_append_left _ ht)
      obtain ⟨texts₂, hrest, hflat₂⟩ := ih _ hlen texts₁ _ _
        (fun t ht => h t (List.mem_append_right _ ht)) rfl
      refine ⟨texts₂, ?_, ?_⟩
      · -- no drawing and no formula is open, so the step is the one that `tokens` takes
        rw [Builder.takeText, ← hrest]
        exact congrArg (fun p => p.1.takeText p.2 (step r false c s).rest) hstep
      · rw [hflat₂, hflat₁, List.flatMap_append, List.append_assoc]

/-- What a page shows of a text that it reads as it is, and whose tokens open and close nothing. -/
theorem plainText_of_textual (hmark : s.head? ≠ some '\uFEFF') (hreturn : '\r' ∉ s)
    (h : ∀ t ∈ tokens {} s, isTextual t = true ∨ t = .eof) :
    Markup.plainText s = (tokens {} s).flatMap added := by
  have hunify : Text.unifyLineEnds s = s := by
    have := unifyLineEnds_append hreturn []
    rwa [List.append_nil, Text.unifyLineEnds, List.append_nil] at this
  obtain ⟨texts, htake, hflat⟩ := takeText_builderOf [] {} s h
  rw [Markup.plainText, fragment, if_neg hmark, hunify]
  exact (congrArg (fun b : Builder => b.tree.text) htake).trans ((text_treeOf texts).trans hflat)

/-! ## Escaped texts -/

theorem head?_escapeText_mark (hmark : s.head? ≠ some '\uFEFF') :
    (escapeText s).head? ≠ some '\uFEFF' := by
  have hnil : ([] : List Char).head? ≠ some '\uFEFF' := nofun
  have h := head?_escapeText (by decide) hmark hnil
  rwa [List.append_nil] at h

theorem not_mem_escapeText_return (hreturn : '\r' ∉ s) : '\r' ∉ escapeText s := by
  intro h
  obtain ⟨c, hc, hmem⟩ := List.mem_flatMap.mp h
  exact not_mem_escapeChar (fun he => hreturn (he ▸ hc)) hmem

/-- Without null characters, tokens add all that they show. -/
theorem Shows.added_eq (h : Shows ts s) (hnull : '\x00' ∉ s) : ts.flatMap added = s := by
  have hadded : ∀ t ∈ ts, added t = Report.shown t := by
    intro t ht
    have htext := h.textual t ht
    cases t with
    | text | fault => rfl
    | null =>
      refine absurd ?_ hnull
      rw [← h.shown]
      exact List.mem_flatMap.mpr ⟨.null, ht, List.mem_singleton_self _⟩
    | _ => cases htext
  rw [← h.shown]
  exact List.flatMap_congr hadded

/-- What a page shows of an escaped text is the text. -/
theorem plainText_of_escaped (hnull : '\x00' ∉ s) (hreturn : '\r' ∉ s)
    (hmark : s.head? ≠ some '\uFEFF') : Markup.plainText (escapeText s) = s := by
  obtain ⟨ts, hshows, htokens⟩ := tokens_escapeText (r := {}) rfl s
  have hall : tokens {} (escapeText s) = ts ++ [.eof] := by
    rw [← List.append_nil (escapeText s), htokens [] nofun, tokens]
  rw [plainText_of_textual (head?_escapeText_mark hmark) (not_mem_escapeText_return hreturn), hall,
    List.flatMap_append, hshows.added_eq hnull]
  · exact List.append_nil s
  · intro t ht
    rw [hall] at ht
    obtain ht | ht := List.mem_append.mp ht
    · exact .inl (hshows.textual t ht)
    · exact .inr (List.mem_singleton.mp ht)

/-- **Escaping is undone by reading.** What a page shows of an escaped text without null characters
and carriage returns, and without a mark of byte order at its start, is the text. So texts are told
from each other by how they are escaped, and the report of an escaped text without a title is made
up of the lines of the text. -/
theorem plainText_escapeText (s : List Char) (hnull : '\x00' ∉ s) (hreturn : '\r' ∉ s)
    (hmark : s.head? ≠ some '\uFEFF') :
    Markup.plainText (escapeText s) = s ∧
    (∀ u, escapeText s = escapeText u → s = u) ∧
    ∀ r : Response, r.title = none → r.data.toList = escapeText s →
      ∀ out, IsPlainText none s out ↔ out = (plainText r).toList := by
  have hread := plainText_of_escaped hnull hreturn hmark
  refine ⟨hread, fun u hu => escapeText_injective hu, fun r htitle hdata out => ?_⟩
  have h : IsPlainText r.title (Markup.plainText r.data.toList) out ↔
      out = (plainText r).toList := isPlainText_iff
  rwa [htitle, hdata, hread] at h

/-- A text that looks like markup and like references, one without its semicolon. -/
theorem plainText_escapeText_lookalike :
    let s := "<p>&lt; &amp\u00A0&#13;\n</p>".toList
    '\x00' ∉ s ∧ '\r' ∉ s ∧ s.head? ≠ some '\uFEFF' ∧ Markup.plainText (escapeText s) = s := by
  intro s
  have hnull : '\x00' ∉ s := by decide
  have hreturn : '\r' ∉ s := by decide
  have hmark : s.head? ≠ some '\uFEFF' := by decide
  exact ⟨hnull, hreturn, hmark, (plainText_escapeText s hnull hreturn hmark).1⟩

end TaintClient.Report

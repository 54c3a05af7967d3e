/-
  Formatting that overlaps other elements. An element such as `b` that is closed from outside by
  the end of its parent is opened again at the next content; its own end tag, met inside an element
  that it does not contain, splits it around that element.
-/
import TaintClient.Markup.Builder

namespace TaintClient.Markup

namespace Builder

/-- The entries of formatting down to the latest mark. -/
def recentFormatting (b : Builder) : List Formatting := b.formatting.takeWhile (!·.isMark)

/-- Whether an entry needs no opening: it is a mark, or its element is open. -/
def isSettled (b : Builder) : Formatting → Bool
  | .mark => true
  | .element id _ => b.stack.contains id

/-- Opens the elements of entries, the earliest first, and gives their new entries. -/
def reopen (b : Builder) : List Formatting → Builder × List Formatting
  | [] => (b, [])
  | .mark :: earlier =>
    let (b, entries) := b.reopen earlier
    (b, .mark :: entries)
  | .element _ tag :: earlier =>
    let (b, entries) := b.reopen earlier
    let b := b.enter tag.label
    (b, .element b.current tag :: entries)

/-- Opens all formatting again that was closed from outside. -/
def restoreFormatting (b : Builder) : Builder :=
  let closed := b.formatting.takeWhile (!b.isSettled ·)
  let (b, entries) := b.reopen closed
  { b with formatting := entries ++ b.formatting.drop closed.length }

/-- Puts a mark. -/
def mark (b : Builder) : Builder := { b with formatting := .mark :: b.formatting }

/-- Forgets the formatting down to the latest mark, and the mark. -/
def clearToMark (b : Builder) : Builder :=
  { b with formatting := (b.formatting.dropWhile (!·.isMark)).drop 1 }

/-- Forgets the entry of an element. -/
def forget (b : Builder) (id : Nat) : Builder :=
  { b with formatting := b.formatting.eraseP (·.isOf id) }

/-- Whether two tags have the same name and the same attributes in any order. -/
def sameTag (s t : Tag) : Bool :=
  s.name = t.name && s.attributes.length = t.attributes.length
    && s.attributes.all t.attributes.contains

/-- Whether the entry was opened by such a tag. -/
def isLike (tag : Tag) : Formatting → Bool
  | .mark => false
  | .element _ t => sameTag tag t

/-- Adds a formatting element and opens it. Of more than three alike, the earliest is forgotten. -/
def enterFormatting (b : Builder) (tag : Tag) : Builder :=
  let alike := b.recentFormatting.filter (isLike tag)
  let b :=
    match alike.getLast? with
    | some (.element id _) => if 3 ≤ alike.length then b.forget id else b
    | _ => b
  let b := b.enter tag.label
  { b with formatting := .element b.current tag :: b.formatting }

/-! ## Splitting around an element -/

/-- A split under way: the element that was moved last, and the entry behind which the new one
goes, if not in place of the old one. -/
structure Split where
  builder : Builder
  moved : Nat
  after : Option Nat := none

/-- The split of the elements between the block and the formatting element, the inner ones first.
The answer holds those that stay open. The first three that are formatting are added anew around
what was moved; others are closed. -/
def splitBetween (block : Nat) (s : Split) : Nat → List Nat → Split × List Nat
  | _, [] => (s, [])
  | count, id :: outer =>
    let b := s.builder
    match b.formatting.find? (·.isOf id) with
    | some (.element _ tag) =>
      if 3 ≤ count then
        splitBetween block { s with builder := b.forget id } (count + 1) outer
      else
        let (tree, new) := b.tree.create ⟨.html, tag.label⟩
        let formatting := b.formatting.map fun e => if e.isOf id then .element new tag else e
        let tree := (tree.detach s.moved).append new (.element s.moved)
        let after := if s.moved = block then some new else s.after
        let (s, kept) := splitBetween block
          ⟨{ b with tree := tree, formatting := formatting }, new, after⟩ (count + 1) outer
        (s, new :: kept)
    | _ => splitBetween block s (count + 1) outer

/-- The list of formatting with the entry of `id` replaced by a new one, directly later than the
entry `after` if there is one, else in its own place. -/
def replaceEntry (entries : List Formatting) (id : Nat) (new : Formatting) :
    Option Nat → List Formatting
  | none => entries.map fun e => if e.isOf id then new else e
  | some after =>
    (entries.flatMap fun e => if e.isOf after then [new, e] else [e]).eraseP (·.isOf id)

/-- Splits a formatting element around the outermost structural element inside it. `inner` and
`between` are the open elements inside that block and between the two, `outer` those around the
formatting element. -/
def splitAround (b : Builder) (id : Nat) (tag : Tag) (block : Nat)
    (inner between outer : List Nat) : Builder :=
  let (s, kept) := splitBetween block ⟨b, block, none⟩ 0 between
  let b := { s.builder with tree := s.builder.tree.detach s.moved }
  let b := b.place (outer.headD 0) (.element s.moved)
  let (tree, new) := b.tree.create ⟨.html, tag.label⟩
  let tree := (tree.moveChildren block new).append block (.element new)
  { b with
    tree := tree
    formatting := replaceEntry b.formatting id (.element new tag) s.after
    stack := inner ++ new :: block :: kept ++ outer }

/-- One round of ending a formatting element by its label. The answer says whether another round
may have something to do. -/
def splitOnce (b : Builder) (label : String) : Builder × Bool :=
  let isSubject : Formatting → Bool
    | .mark => false
    | .element _ tag => tag.label = label
  match b.recentFormatting.find? isSubject with
  | some (.element id tag) =>
    if !b.stack.contains id then (b.forget id, false)
    else if !b.finds Name.isBound (· = id) then (b, false)
    else
      let inside := b.stack.takeWhile (· ≠ id)
      let outer := (b.stack.dropWhile (· ≠ id)).drop 1
      let isBlock (i : Nat) : Bool := (b.name i).isStructural
      match inside.reverse.find? isBlock with
      | none => ({ b with stack := outer }.forget id, false)
      | some block =>
        let between := (inside.reverse.takeWhile (!isBlock ·)).reverse
        let inner := inside.take (inside.length - between.length - 1)
        (b.splitAround id tag block inner between outer, true)
  | _ => (b.closeOrdinary label, false)

/-- Ends a formatting element in at most `n` rounds. -/
def splitRounds (label : String) : Nat → Builder → Builder
  | 0, b => b
  | n + 1, b =>
    match b.splitOnce label with
    | (b, true) => splitRounds label n b
    | (b, false) => b

/-- Ends a formatting element by its label. -/
def endFormatting (b : Builder) (label : String) : Builder :=
  if b.atHtml label ∧ ¬ b.formatting.any (·.isOf b.current) then b.pop
  else splitRounds label 8 b

/-- Ends the anchor that is open in the formatting, before another one opens. -/
def endAnchor (b : Builder) : Builder :=
  let isAnchor : Formatting → Bool
    | .mark => false
    | .element id _ => (b.name id).isHtml "a"
  match b.recentFormatting.find? isAnchor with
  | some (.element id _) => ((b.endFormatting "a").forget id).unstack id
  | _ => b

end Builder

end TaintClient.Markup

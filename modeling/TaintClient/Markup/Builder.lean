/-
  A tree under construction: the elements that are still open, the formatting that has to be
  opened again in the next element, and the kind of place that tokens are taken in.
-/
import TaintClient.Markup.Token
import TaintClient.Markup.Tree

namespace TaintClient.Markup

/-- The kind of place that tokens are taken in. -/
inductive Region
  | body
  | text
  | table
  | tableText
  | caption
  | columns
  | tableBody
  | row
  | cell
  | select
  | selectInTable
  | template
deriving DecidableEq, Repr

/-- An entry of the list of formatting: an element and the tag that opened it, or the mark of an
element that formatting does not reach into. -/
inductive Formatting
  | mark
  | element (id : Nat) (tag : Tag)
deriving Repr

/-- Whether an entry is that of an element. -/
def Formatting.isOf (id : Nat) : Formatting → Bool
  | .mark => false
  | .element i _ => i = id

/-- Whether an entry is a mark. -/
def Formatting.isMark : Formatting → Bool
  | .mark => true
  | .element _ _ => false

/-- A tree under construction. -/
structure Builder where
  tree : Tree := .root
  /-- The open elements, the innermost first. -/
  stack : List Nat := [0]
  /-- The formatting, the latest first. -/
  formatting : List Formatting := []
  region : Region := .body
  /-- The region to go back to from text. -/
  outer : Region := .body
  /-- The regions of the open templates, the innermost first. -/
  templates : List Region := []
  /-- Text found between the parts of a table, the latest first. -/
  tableText : List (List Char) := []
  form : Option Nat := none
  /-- Whether a line feed that comes next is not part of the text. -/
  skipsLineFeed : Bool := false
  /-- Whether content that does not belong in a table is moved out of it. -/
  movesOut : Bool := false
deriving Repr

/-- The label that a tag names. -/
def Tag.label (t : Tag) : String := String.ofList t.name

/-- A start tag without attributes. -/
def Tag.bare (label : String) : Tag := ⟨label.toList, [], false⟩

namespace Builder

/-! ## Open elements -/

/-- The innermost open element. -/
def current (b : Builder) : Nat := b.stack.headD 0

/-- The name of an element. -/
def name (b : Builder) (id : Nat) : Name := b.tree.name id

/-- The name of the innermost open element. -/
def currentName (b : Builder) : Name := b.name b.current

/-- Whether the innermost open element is the HTML element of that label. -/
def atHtml (b : Builder) (label : String) : Bool := b.currentName.isHtml label

/-- Whether tokens are inside a drawing or a formula. -/
def foreign (b : Builder) : Bool := b.currentName.vocabulary ≠ .html

/-- Closes the innermost element. -/
def pop (b : Builder) : Builder := { b with stack := b.stack.drop 1 }

/-- Closes elements as long as they satisfy `p`. -/
def popWhile (b : Builder) (p : Name → Bool) : Builder :=
  { b with stack := b.stack.dropWhile fun id => p (b.name id) }

/-- Closes elements up to one that satisfies `p` and leaves that open. -/
def popTo (b : Builder) (p : Name → Bool) : Builder := b.popWhile (!p ·)

/-- Closes elements up to and with one that satisfies `p`. -/
def popThrough (b : Builder) (p : Name → Bool) : Builder := (b.popTo p).pop

/-- Closes elements up to and with the HTML element of that label. -/
def close (b : Builder) (label : String) : Builder := b.popThrough (·.isHtml label)

/-- Closes the elements that need no end tag. -/
def closeImplied (b : Builder) : Builder := b.popWhile Name.endsByItself

/-- Closes the elements that need no end tag, other than those of that label. -/
def closeImpliedExcept (b : Builder) (label : String) : Builder :=
  b.popWhile fun n => n.endsByItself && !n.isHtml label

/-- Whether an element that satisfies `p` is open with no bound inside it. -/
def finds (b : Builder) (bound : Name → Bool) (p : Nat → Bool) : Bool :=
  (b.stack.find? fun id => p id || bound (b.name id)).any p

/-- Whether the HTML element of that label is open with no bound inside it. -/
def findsHtml (b : Builder) (bound : Name → Bool) (label : String) : Bool :=
  b.finds bound fun id => (b.name id).isHtml label

/-- Whether the HTML element of that label is open. -/
def isOpen (b : Builder) (label : String) : Bool :=
  b.stack.any fun id => (b.name id).isHtml label

/-- Takes an element out of the open ones, which stay open inside and outside of it. -/
def unstack (b : Builder) (id : Nat) : Builder := { b with stack := b.stack.erase id }

/-! ## Insertion -/

/-- Where new content goes. -/
inductive Spot
  | lastIn (parent : Nat)
  /-- Before the table, or last in the element around it if the table is no child. -/
  | around (table outside : Nat)

/-- The place outside a table, at the innermost template or table among the open elements. -/
def spotOutside (b : Builder) : List Nat → Spot
  | [] => .lastIn 0
  | id :: outer =>
    if (b.name id).isHtml "template" then .lastIn id
    else if (b.name id).isHtml "table" then .around id (outer.headD 0)
    else spotOutside b outer

/-- The place for content that is meant for `target`. -/
def spot (b : Builder) (target : Nat) : Spot :=
  if b.movesOut && (b.name target).movesContentOut then b.spotOutside b.stack else .lastIn target

/-- Puts an item where content for `target` goes. -/
def place (b : Builder) (target : Nat) (item : Item) : Builder :=
  match b.spot target with
  | .lastIn parent => { b with tree := b.tree.append parent item }
  | .around table outside =>
    if (b.tree.parent? table).isSome then { b with tree := b.tree.insertBefore table item }
    else { b with tree := b.tree.append outside item }

/-- Adds text. -/
def addText (b : Builder) (s : List Char) : Builder := b.place b.current (.text s)

/-- Adds a new element, which is not opened, and gives its number. -/
def addNamed (b : Builder) (n : Name) : Builder × Nat :=
  let (tree, id) := b.tree.create n
  ({ b with tree := tree }.place b.current (.element id), id)

/-- Adds an element that has no content. -/
def addVoid (b : Builder) (n : Name) : Builder := (b.addNamed n).1

/-- Adds an element and opens it. -/
def enterNamed (b : Builder) (n : Name) : Builder :=
  let (b, id) := b.addNamed n
  { b with stack := id :: b.stack }

/-- Adds the HTML element of that label and opens it. -/
def enter (b : Builder) (label : String) : Builder := b.enterNamed ⟨.html, label⟩

/-! ## Paragraphs -/

/-- Closes the paragraph that is open. -/
def closeParagraph (b : Builder) : Builder := (b.closeImpliedExcept "p").close "p"

/-- Closes the paragraph that text would go into, if there is one. -/
def endParagraph (b : Builder) : Builder :=
  if b.findsHtml Name.isButtonBound "p" then b.closeParagraph else b

/-! ## End tags without a rule of their own -/

/-- Closes the innermost element of that label, unless an element with a structure of its own is
open inside it. -/
def closeOrdinary (b : Builder) (label : String) : Builder :=
  match b.stack.find? fun id => (b.name id).isHtml label || (b.name id).isStructural with
  | none => b
  | some id =>
    if (b.name id).isHtml label then
      let b := b.closeImpliedExcept label
      { b with stack := (b.stack.dropWhile (· ≠ id)).drop 1 }
    else b

end Builder

end TaintClient.Markup

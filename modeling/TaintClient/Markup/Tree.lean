/-
  The tree that markup stands for, kept as numbered elements that know their children. Elements
  move while the tree is built; an element that was taken out stays numbered and is no one's child.
-/
import TaintClient.Markup.Element

namespace TaintClient.Markup

/-- A child of an element. -/
inductive Item
  | text (s : List Char)
  | element (id : Nat)
deriving DecidableEq, Repr

/-- An element. The last child comes first. -/
structure Node where
  name : Name
  parent : Option Nat := none
  children : List Item := []
deriving Repr

/-- The elements of a tree by number. Number zero is the root. -/
structure Tree where
  nodes : Array Node
deriving Repr

namespace Tree

/-- The name of the root. -/
def rootName : Name := ⟨.html, "html"⟩

/-- A tree that is a root alone. -/
def root : Tree := ⟨#[⟨rootName, none, []⟩]⟩

/-- The name of an element. -/
def name (t : Tree) (id : Nat) : Name :=
  match t.nodes[id]? with
  | some n => n.name
  | none => rootName

/-- The element that an element is a child of. -/
def parent? (t : Tree) (id : Nat) : Option Nat := t.nodes[id]?.bind (·.parent)

/-- Adds an element that is no one's child. -/
def create (t : Tree) (name : Name) : Tree × Nat := (⟨t.nodes.push ⟨name, none, []⟩⟩, t.nodes.size)

/-- Changes one element. -/
def modify (t : Tree) (id : Nat) (f : Node → Node) : Tree := ⟨t.nodes.modify id f⟩

/-- Notes whose child an item is. -/
def claim (t : Tree) (parent : Nat) : Item → Tree
  | .text _ => t
  | .element id => t.modify id ({ · with parent := some parent })

/-- Takes an element out of its parent. -/
def detach (t : Tree) (id : Nat) : Tree :=
  match t.parent? id with
  | none => t
  | some p =>
    (t.modify p fun n => { n with children := n.children.filter (· ≠ .element id) }).modify id
      ({ · with parent := none })

/-- Adds a last child. -/
def append (t : Tree) (parent : Nat) (item : Item) : Tree :=
  (t.modify parent fun n => { n with children := item :: n.children }).claim parent item

/-- Children, the last first, with one more directly before `sibling`. -/
def putBefore (sibling : Nat) (item : Item) : List Item → List Item
  | [] => []
  | c :: cs => if c = .element sibling then c :: item :: cs else c :: putBefore sibling item cs

/-- Adds a child directly before an element that is a child itself. -/
def insertBefore (t : Tree) (sibling : Nat) (item : Item) : Tree :=
  match t.parent? sibling with
  | none => t
  | some p =>
    (t.modify p fun n => { n with children := putBefore sibling item n.children }).claim p item

/-- Moves all children of one element behind those of another. -/
def moveChildren (t : Tree) (source target : Nat) : Tree :=
  match t.nodes[source]? with
  | none => t
  | some n => n.children.foldr (fun item t => t.append target item)
      (t.modify source ({ · with children := [] }))

/-- The text below an element down to a depth, in the order of the tree. -/
def textBelow (t : Tree) : Nat → Nat → List Char
  | 0, _ => []
  | depth + 1, id =>
    match t.nodes[id]? with
    | none => []
    | some n => n.children.reverse.flatMap fun
      | .text s => s
      | .element child => t.textBelow depth child

/-- All text of the tree, in its order. No branch is longer than there are elements. -/
def text (t : Tree) : List Char := t.textBelow t.nodes.size 0

end Tree

end TaintClient.Markup

/-
  The tokens of markup. The text of comments and document types is not kept: nothing of it is
  ever shown.
-/
import TaintClient.Markup.Reference

namespace TaintClient.Markup

/-- A tag: its name in small letters, its attributes, each once, and whether it ends in a
solidus. -/
structure Tag where
  name : List Char
  attributes : List (List Char × List Char)
  selfClosing : Bool
deriving DecidableEq, Repr

/-- A token of markup. -/
inductive Token
  | text (s : List Char)
  | null
  | startTag (t : Tag)
  | endTag (t : Tag)
  | comment
  | doctype
  /-- A fault of the text that precedes a token without being part of one. -/
  | fault
  | eof
deriving DecidableEq, Repr

/-- Whether a character separates words in markup. -/
def isSpace (c : Char) : Bool :=
  c = ' ' || c = '\n' || c = '\t' || c = '\x0c' || c = '\r'

/-! ## Tags -/

/-- What a quoted attribute value is quoted with. -/
inductive Quote
  | single
  | double
deriving DecidableEq

/-- The sign of a quotation. -/
def Quote.sign : Quote → Char
  | .single => '\''
  | .double => '"'

/-- Where a reader is inside a tag. -/
inductive TagPlace
  | name
  | beforeAttribute
  | attributeName
  | afterAttributeName
  | beforeValue
  | value (quote : Option Quote)
  | afterValue
  | solidus

/-- A tag under construction; texts are kept backwards. -/
structure TagDraft where
  name : List Char := []
  attributes : List (List Char × List Char) := []
  current : Option (List Char × List Char) := none

namespace TagDraft

/-- A character as it stands in names: ASCII capitals become small letters. -/
def nameChar (c : Char) : Char := if c = '\x00' then '\uFFFD' else c.toLower

/-- A character as it stands in values. -/
def valueChar (c : Char) : Char := if c = '\x00' then '\uFFFD' else c

/-- Adds a character to the name. -/
def pushName (d : TagDraft) (c : Char) : TagDraft := { d with name := nameChar c :: d.name }

/-- Ends the attribute under construction; a second one of the same name is dropped. -/
def finish (d : TagDraft) : TagDraft :=
  match d.current with
  | none => d
  | some (name, value) =>
    let name := name.reverse
    if d.attributes.any (·.1 = name) then { d with current := none }
    else { d with
      attributes := d.attributes ++ [(name, attributeText value.reverse)], current := none }

/-- Begins an attribute. -/
def start (d : TagDraft) (c : Char) : TagDraft :=
  { d.finish with current := some ([nameChar c], []) }

/-- Adds a character to the name of the attribute. -/
def pushAttribute (d : TagDraft) (c : Char) : TagDraft :=
  { d with current := d.current.map fun a => (nameChar c :: a.1, a.2) }

/-- Adds a character to the value of the attribute. -/
def pushValue (d : TagDraft) (c : Char) : TagDraft :=
  { d with current := d.current.map fun a => (a.1, valueChar c :: a.2) }

/-- The finished tag. -/
def tag (d : TagDraft) (selfClosing : Bool) : Tag :=
  ⟨d.name.reverse, d.finish.attributes, selfClosing⟩

/-- What a character does where an attribute may begin. -/
def before (d : TagDraft) (c : Char) : TagPlace × TagDraft :=
  if isSpace c then (.beforeAttribute, d)
  else if c = '/' then (.solidus, d)
  else (.attributeName, d.start c)

/-- What a character other than the closing sign does inside a tag. -/
def step (d : TagDraft) (place : TagPlace) (c : Char) : TagPlace × TagDraft :=
  match place with
  | .name =>
    if isSpace c then (.beforeAttribute, d)
    else if c = '/' then (.solidus, d)
    else (.name, d.pushName c)
  | .beforeAttribute => d.before c
  | .attributeName =>
    if isSpace c then (.afterAttributeName, d)
    else if c = '/' then (.solidus, d)
    else if c = '=' then (.beforeValue, d)
    else (.attributeName, d.pushAttribute c)
  | .afterAttributeName =>
    if isSpace c then (.afterAttributeName, d)
    else if c = '/' then (.solidus, d)
    else if c = '=' then (.beforeValue, d)
    else (.attributeName, d.start c)
  | .beforeValue =>
    if isSpace c then (.beforeValue, d)
    else if c = '"' then (.value (some .double), d)
    else if c = '\'' then (.value (some .single), d)
    else (.value none, d.pushValue c)
  | .value none => if isSpace c then (.beforeAttribute, d) else (.value none, d.pushValue c)
  | .value (some q) => if c = q.sign then (.afterValue, d) else (.value (some q), d.pushValue c)
  | .afterValue => d.before c
  | .solidus => d.before c

end TagDraft

/-- Whether the closing sign is part of a value here. -/
def TagPlace.quoted : TagPlace → Bool
  | .value (some _) => true
  | _ => false

/-- Whether a closing sign here makes the tag close itself. -/
def TagPlace.closesItself : TagPlace → Bool
  | .solidus => true
  | _ => false

/-- Reads a tag up to its closing sign; a text that ends before holds no tag. -/
def readTag (place : TagPlace) (d : TagDraft) : List Char → Option (Tag × List Char)
  | [] => none
  | c :: cs =>
    if c = '>' ∧ ¬ place.quoted then
      some (d.tag place.closesItself, cs)
    else
      let (place, d) := d.step place c
      readTag place d cs

theorem length_readTag {place : TagPlace} {d : TagDraft} {s r : List Char} {t : Tag}
    (h : readTag place d s = some (t, r)) : r.length < s.length := by
  induction s generalizing place d with
  | nil => cases h
  | cons c cs ih =>
    rw [readTag] at h
    split at h
    · injection h with h
      injection h with _ h
      subst h
      simp
    · exact Nat.lt_succ_of_lt (ih h)

/-! ## Comments -/

/-- Where a reader is inside a comment: right behind its opening, behind the opening and a dash,
in its text, behind one dash, behind two or more, or behind two dashes and an exclamation mark. -/
inductive CommentPlace
  | opening
  | openingDash
  | body
  | dash
  | dashes
  | bang

/-- What a character does inside a comment; `none` ends it. -/
def CommentPlace.step (p : CommentPlace) (c : Char) : Option CommentPlace :=
  match p with
  | .opening => if c = '-' then some .openingDash else if c = '>' then none else some .body
  | .openingDash => if c = '-' then some .dashes else if c = '>' then none else some .body
  | .body => if c = '-' then some .dash else some .body
  | .dash => if c = '-' then some .dashes else some .body
  | .dashes =>
    if c = '>' then none
    else if c = '!' then some .bang
    else if c = '-' then some .dashes
    else some .body
  | .bang => if c = '-' then some .dash else if c = '>' then none else some .body

/-- The text behind a comment. -/
def skipComment (p : CommentPlace) : List Char → List Char
  | [] => []
  | c :: cs =>
    match p.step c with
    | none => cs
    | some p => skipComment p cs

theorem length_skipComment (p : CommentPlace) (s : List Char) :
    (skipComment p s).length ≤ s.length := by
  induction s generalizing p with
  | nil => simp [skipComment]
  | cons c cs ih =>
    rw [skipComment]
    split
    · simp
    · exact Nat.le_succ_of_le (ih _)

/-- The text behind the next closing sign. -/
def skipPast (sign : Char) (s : List Char) : List Char := (s.dropWhile (· != sign)).drop 1

theorem length_skipPast (sign : Char) (s : List Char) :
    (skipPast sign s).length ≤ s.length := by
  unfold skipPast
  have := length_dropWhile (· != sign) s
  simp only [List.length_drop]
  omega

/-- Whether the text begins with the word, capitals and small letters being the same. -/
def beginsWith (word s : List Char) : Bool :=
  (s.take word.length).map Char.toLower = word.map Char.toLower

end TaintClient.Markup

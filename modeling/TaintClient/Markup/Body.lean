/-
  What a token does in ordinary content. Tags are sorted into kinds by their names first; the rule
  of a kind is a step on the tree under construction.
-/
import TaintClient.Markup.Formatting
import TaintClient.Markup.Tokenizer

namespace TaintClient.Markup

/-- What a token did. -/
structure Outcome where
  builder : Builder
  /-- How the text behind the token is read, if it is read differently. -/
  content : Option Content := none
  /-- Whether the token has to be taken once more. -/
  again : Bool := false

/-- The token was used up. -/
def done (b : Builder) : Outcome := ⟨b, none, false⟩

/-- The token is taken once more. -/
def again (b : Builder) : Outcome := ⟨b, none, true⟩

/-! ## Kinds of start tags -/

/-- The kinds of start tags in ordinary content. -/
inductive StartKind
  | ignored
  | block
  | heading
  | verbatim
  | form
  | item
  | definition
  | plaintext
  | button
  | choice
  | anchor
  | formatting
  | unbreakable
  | embedded
  | table
  | inlineVoid
  | void
  | rule
  | textarea
  | title
  | example
  | raw
  | script
  | template
  | select
  | rubyBase
  | rubyText
  | drawing
  | formula
  | other
deriving DecidableEq, Repr

/-- The labels of each kind of start tag. -/
def startKinds : List (StartKind × List String) :=
  [(.ignored, ["html", "body", "frameset", "caption", "col", "colgroup", "frame", "head", "tbody",
      "td", "tfoot", "th", "thead", "tr"]),
    (.block, ["address", "article", "aside", "blockquote", "center", "details", "dialog", "dir",
      "div", "dl", "fieldset", "figcaption", "figure", "footer", "header", "hgroup", "main",
      "menu", "nav", "ol", "p", "search", "section", "summary", "ul"]),
    (.heading, ["h1", "h2", "h3", "h4", "h5", "h6"]),
    (.verbatim, ["pre", "listing"]),
    (.form, ["form"]),
    (.item, ["li"]),
    (.definition, ["dd", "dt"]),
    (.plaintext, ["plaintext"]),
    (.button, ["button"]),
    (.choice, ["option", "optgroup"]),
    (.anchor, ["a"]),
    (.formatting, ["b", "big", "code", "em", "font", "i", "s", "small", "strike", "strong", "tt",
      "u"]),
    (.unbreakable, ["nobr"]),
    (.embedded, ["applet", "marquee", "object"]),
    (.table, ["table"]),
    (.inlineVoid, ["area", "br", "embed", "img", "image", "keygen", "wbr", "input"]),
    (.void, ["base", "basefont", "bgsound", "link", "meta", "param", "source", "track"]),
    (.rule, ["hr"]),
    (.textarea, ["textarea"]),
    (.title, ["title"]),
    (.example, ["xmp"]),
    (.raw, ["style", "noframes", "noscript", "iframe", "noembed"]),
    (.script, ["script"]),
    (.template, ["template"]),
    (.select, ["select"]),
    (.rubyBase, ["rb", "rtc"]),
    (.rubyText, ["rp", "rt"]),
    (.drawing, ["svg"]),
    (.formula, ["math"])]

/-- The kind of a start tag. -/
def startKind (label : String) : StartKind :=
  match startKinds.find? (·.2.contains label) with
  | some (kind, _) => kind
  | none => .other

/-! ## Rules of start tags -/

namespace Builder

/-- Adds an element whose content is text that is read in a way of its own. -/
def enterText (b : Builder) (label : String) (content : Content) : Outcome :=
  let b := b.enter label
  ⟨{ b with outer := b.region, region := .text }, some content, false⟩

/-- Adds an element of another vocabulary. -/
def enterForeign (b : Builder) (vocabulary : Vocabulary) (t : Tag) : Builder :=
  if t.selfClosing then b.addVoid ⟨vocabulary, t.label⟩
  else b.enterNamed ⟨vocabulary, t.label⟩

/-- Closes the item that a new item ends, one of the labels. Structural elements other than plain
blocks keep the items outside of them open. -/
def endItem (b : Builder) (labels : List String) : Builder :=
  let stops (n : Name) : Bool := n.isStructural && !n.among ["address", "div", "p"]
  match b.stack.find? fun id => (b.name id).among labels || stops (b.name id) with
  | none => b
  | some id =>
    if (b.name id).among labels then
      let label := (b.name id).label
      (b.closeImpliedExcept label).close label
    else b

/-- The region of a selection that opens. -/
def selectRegion (b : Builder) : Region :=
  match b.region with
  | .table | .caption | .tableBody | .row | .cell => .selectInTable
  | _ => .select

/-- The start of a template. -/
def enterTemplate (b : Builder) : Builder :=
  let b := b.mark.enter "template"
  { b with region := .template, templates := .template :: b.templates }

/-- The rule of a kind of start tag in ordinary content. -/
def startByKind (b : Builder) (t : Tag) : StartKind → Outcome
  | .ignored => done b
  | .block => done (b.endParagraph.enter t.label)
  | .heading =>
    let b := b.endParagraph
    let b := if b.currentName.isHeading then b.pop else b
    done (b.enter t.label)
  | .verbatim => done { b.endParagraph.enter t.label with skipsLineFeed := true }
  | .form =>
    let nested := b.isOpen "template"
    if b.form.isSome ∧ ¬ nested then done b
    else
      let b := b.endParagraph.enter t.label
      done (if nested then b else { b with form := some b.current })
  | .item => done ((b.endItem ["li"]).endParagraph.enter t.label)
  | .definition => done ((b.endItem ["dd", "dt"]).endParagraph.enter t.label)
  | .plaintext => ⟨b.endParagraph.enter t.label, some .plain, false⟩
  | .button =>
    let b := if b.findsHtml Name.isBound "button" then b.closeImplied.close "button" else b
    done (b.restoreFormatting.enter t.label)
  | .choice =>
    let b := if b.atHtml "option" then b.pop else b
    done (b.restoreFormatting.enter t.label)
  | .anchor => done (b.endAnchor.restoreFormatting.enterFormatting t)
  | .formatting => done (b.restoreFormatting.enterFormatting t)
  | .unbreakable =>
    let b := b.restoreFormatting
    let b :=
      if b.findsHtml Name.isBound "nobr" then (b.endFormatting "nobr").restoreFormatting else b
    done (b.enterFormatting t)
  | .embedded => done (b.restoreFormatting.enter t.label).mark
  | .table => done { b.endParagraph.enter t.label with region := .table }
  | .inlineVoid => done (b.restoreFormatting.addVoid ⟨.html, t.label⟩)
  | .void => done (b.addVoid ⟨.html, t.label⟩)
  | .rule => done (b.endParagraph.addVoid ⟨.html, t.label⟩)
  | .textarea => { b with skipsLineFeed := true }.enterText t.label .title
  | .title => b.enterText t.label .title
  | .example => b.endParagraph.restoreFormatting.enterText t.label .raw
  | .raw => b.enterText t.label .raw
  | .script => b.enterText t.label (.script .plain)
  | .template => done b.enterTemplate
  | .select =>
    let b := b.restoreFormatting.enter t.label
    done { b with region := b.selectRegion }
  | .rubyBase =>
    let b := if b.findsHtml Name.isBound "ruby" then b.closeImplied else b
    done (b.enter t.label)
  | .rubyText =>
    let b := if b.findsHtml Name.isBound "ruby" then b.closeImpliedExcept "rtc" else b
    done (b.enter t.label)
  | .drawing => done (b.restoreFormatting.enterForeign .svg t)
  | .formula => done (b.restoreFormatting.enterForeign .math t)
  | .other => done (b.restoreFormatting.enter t.label)

/-- A start tag in ordinary content. -/
def startInBody (b : Builder) (t : Tag) : Outcome := b.startByKind t (startKind t.label)

end Builder

/-! ## Kinds of end tags -/

/-- The kinds of end tags in ordinary content. -/
inductive EndKind
  | ignored
  | block
  | form
  | paragraph
  | item
  | definition
  | heading
  | formatting
  | embedded
  | lineBreak
  | template
  | other
deriving DecidableEq, Repr

/-- The labels of each kind of end tag. -/
def endKinds : List (EndKind × List String) :=
  [(.ignored, ["body", "html"]),
    (.block, ["address", "article", "aside", "blockquote", "button", "center", "details",
      "dialog", "dir", "div", "dl", "fieldset", "figcaption", "figure", "footer", "header",
      "hgroup", "listing", "main", "menu", "nav", "ol", "pre", "search", "section", "summary",
      "ul"]),
    (.form, ["form"]),
    (.paragraph, ["p"]),
    (.item, ["li"]),
    (.definition, ["dd", "dt"]),
    (.heading, ["h1", "h2", "h3", "h4", "h5", "h6"]),
    (.formatting, ["a", "b", "big", "code", "em", "font", "i", "nobr", "s", "small", "strike",
      "strong", "tt", "u"]),
    (.embedded, ["applet", "marquee", "object"]),
    (.lineBreak, ["br"]),
    (.template, ["template"])]

/-- The kind of an end tag. -/
def endKind (label : String) : EndKind :=
  match endKinds.find? (·.2.contains label) with
  | some (kind, _) => kind
  | none => .other

/-! ## Rules of end tags -/

namespace Builder

/-- The region that the open elements put tokens in. The outermost element stands for a body. -/
def regionOf (b : Builder) : List Nat → Region
  | [] => .body
  | [_] => .body
  | id :: outer =>
    let n := b.name id
    if n.isHtml "select" then
      match outer.find? fun i => (b.name i).among ["template", "table"] with
      | some i => if (b.name i).isHtml "table" then .selectInTable else .select
      | none => .select
    else if n.isCell then .cell
    else if n.isHtml "tr" then .row
    else if n.among ["tbody", "thead", "tfoot"] then .tableBody
    else if n.isHtml "caption" then .caption
    else if n.isHtml "colgroup" then .columns
    else if n.isHtml "table" then .table
    else if n.isHtml "template" then b.templates.headD .body
    else b.regionOf outer

/-- Puts tokens in the region that the open elements give. -/
def resetRegion (b : Builder) : Builder := { b with region := b.regionOf b.stack }

/-- The end of a template. -/
def endTemplate (b : Builder) : Builder :=
  if b.isOpen "template" then
    let b := ((b.popWhile Name.endsWithTemplate).close "template").clearToMark
    { b with templates := b.templates.drop 1 }.resetRegion
  else b

/-- The end of a form. Outside templates the form ends wherever it was opened. -/
def endForm (b : Builder) : Builder :=
  if b.isOpen "template" then
    if b.findsHtml Name.isBound "form" then b.closeImplied.close "form" else b
  else
    match b.form with
    | none => b
    | some id =>
      let b := { b with form := none }
      if b.finds Name.isBound (· = id) then b.closeImplied.unstack id else b

/-- Ends an element that is open with no bound inside it. -/
def endBounded (b : Builder) (label : String) : Builder :=
  if b.findsHtml Name.isBound label then b.closeImplied.close label else b

/-- Ends an item of a list. -/
def endListed (b : Builder) (bound : Name → Bool) (label : String) : Builder :=
  if b.findsHtml bound label then (b.closeImpliedExcept label).close label else b

/-- The rule of a kind of end tag in ordinary content. -/
def endByKind (b : Builder) (t : Tag) : EndKind → Outcome
  | .ignored => done b
  | .block => done (b.endBounded t.label)
  | .form => done b.endForm
  | .paragraph =>
    let b := if b.findsHtml Name.isButtonBound "p" then b else b.enter "p"
    done b.closeParagraph
  | .item => done (b.endListed Name.isListBound t.label)
  | .definition => done (b.endListed Name.isBound t.label)
  | .heading =>
    if b.finds Name.isBound fun id => (b.name id).isHeading then
      done (b.closeImplied.popThrough Name.isHeading)
    else done b
  | .formatting => done (b.endFormatting t.label)
  | .embedded =>
    if b.findsHtml Name.isBound t.label then done (b.endBounded t.label).clearToMark else done b
  | .lineBreak => b.startInBody (.bare t.label)
  | .template => done b.endTemplate
  | .other => done (b.closeOrdinary t.label)

/-- An end tag in ordinary content. -/
def endInBody (b : Builder) (t : Tag) : Outcome := b.endByKind t (endKind t.label)

/-- A token in ordinary content. A character without meaning is dropped. -/
def takeInBody (b : Builder) : Token → Outcome
  | .text s => done (b.restoreFormatting.addText s)
  | .startTag t => b.startInBody t
  | .endTag t => b.endInBody t
  | _ => done b

end Builder

end TaintClient.Markup

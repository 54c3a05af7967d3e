/-
  What a token does in the other regions: in tables and their parts, in selections, in templates,
  in the text of one element, and in drawings and formulas.
-/
import TaintClient.Markup.Body

namespace TaintClient.Markup

/-- Whether the tag has one of the labels. -/
def Tag.isOne (t : Tag) (labels : List String) : Bool := labels.contains t.label

namespace Builder

/-! ## Tables -/

/-- Takes a token as ordinary content that is moved out of the table. -/
def takeMovedOut (b : Builder) (t : Token) : Outcome :=
  let o := { b with movesOut := true }.takeInBody t
  { o with builder := { o.builder with movesOut := false } }

/-- Text in a table. Between the parts of a table it is collected first. -/
def textInTable (b : Builder) (t : Token) : Outcome :=
  if b.currentName.movesContentOut then again { b with outer := b.region, region := .tableText }
  else b.takeMovedOut t

/-- Whether an `input` does not show. -/
def isHidden (t : Tag) : Bool :=
  (t.attributes.lookup "type".toList).any fun v => v.map Char.toLower = "hidden".toList

/-- A start tag in a table. -/
def startInTable (b : Builder) (t : Tag) : Outcome :=
  let inTable := b.popTo Name.isTableBound
  if t.isOne ["caption"] then done { inTable.mark.enter t.label with region := .caption }
  else if t.isOne ["colgroup"] then done { inTable.enter t.label with region := .columns }
  else if t.isOne ["col"] then again { inTable.enter "colgroup" with region := .columns }
  else if t.isOne ["tbody", "tfoot", "thead"] then
    done { inTable.enter t.label with region := .tableBody }
  else if t.isOne ["td", "th", "tr"] then
    again { inTable.enter "tbody" with region := .tableBody }
  else if t.isOne ["table"] then
    if b.findsHtml Name.isTableBound "table" then again (b.close "table").resetRegion else done b
  else if t.isOne ["style", "script", "template"] then b.startInBody t
  else if t.isOne ["input"] ∧ isHidden t then done (b.addVoid ⟨.html, t.label⟩)
  else if t.isOne ["form"] then
    if b.isOpen "template" ∨ b.form.isSome then done b
    else
      let (b, id) := b.addNamed ⟨.html, t.label⟩
      done { b with form := some id }
  else b.takeMovedOut (.startTag t)

/-- An end tag in a table. -/
def endInTable (b : Builder) (t : Tag) : Outcome :=
  if t.isOne ["table"] then
    if b.findsHtml Name.isTableBound "table" then done (b.close "table").resetRegion else done b
  else if t.isOne ["body", "caption", "col", "colgroup", "html", "tbody", "td", "tfoot", "th",
      "thead", "tr"] then done b
  else if t.isOne ["template"] then done b.endTemplate
  else b.takeMovedOut (.endTag t)

/-- A token in a table. -/
def takeInTable (b : Builder) : Token → Outcome
  | .text s => b.textInTable (.text s)
  | .null => b.textInTable .null
  | .startTag t => b.startInTable t
  | .endTag t => b.endInTable t
  | _ => done b

/-- Adds the text that was collected in a table: in place if it is blank, else outside. -/
def addTableText (b : Builder) : Builder :=
  let texts := b.tableText.reverse
  let b := { b with tableText := [], region := b.outer }
  if texts.all (·.all isSpace) then texts.foldl addText b
  else texts.foldl (fun b s => (b.takeMovedOut (.text s)).builder) b

/-- A token behind text that is collected. -/
def takeInTableText (b : Builder) : Token → Outcome
  | .text s => done { b with tableText := s :: b.tableText }
  | .null => done b
  | _ => again b.addTableText

/-- The tags that begin a part of a table. -/
def partLabels : List String := ["caption", "col", "colgroup", "tbody", "tfoot", "thead"]

/-- A tag that ends a caption, or else is ordinary content. -/
def tagInCaption (b : Builder) (t : Tag) (isEnd : Bool) : Outcome :=
  let closed : Builder :=
    { (b.closeImplied.close "caption").clearToMark with region := .table }
  if (if isEnd then t.isOne ["table", "caption"] else t.isOne (partLabels ++ ["td", "th", "tr"]))
  then
    if b.findsHtml Name.isTableBound "caption" then
      if isEnd ∧ t.isOne ["caption"] then done closed else again closed
    else done b
  else if isEnd then
    if t.isOne ["body", "col", "colgroup", "html", "tbody", "td", "tfoot", "th", "thead", "tr"]
    then done b
    else b.endInBody t
  else b.startInBody t

/-- Leaves a group of columns, the innermost element, for the table around it. -/
def leaveColumns (b : Builder) : Outcome :=
  if b.atHtml "colgroup" then again { b.pop with region := .table } else done b

/-- A token in a group of columns, which holds blanks and columns alone. -/
def takeInColumns (b : Builder) : Token → Outcome
  | .text s =>
    if s.all isSpace then done (b.addText s) else b.leaveColumns
  | .null => b.leaveColumns
  | .startTag t =>
    if t.isOne ["col"] then done (b.addVoid ⟨.html, t.label⟩)
    else if t.isOne ["template"] then b.startInBody t
    else if t.isOne ["html"] then done b
    else b.leaveColumns
  | .endTag t =>
    if t.isOne ["colgroup"] then
      if b.atHtml "colgroup" then done { b.pop with region := .table } else done b
    else if t.isOne ["col"] then done b
    else if t.isOne ["template"] then done b.endTemplate
    else b.leaveColumns
  | _ => done b

/-- Leaves a group of rows for the table around it. -/
def leaveTableBody (b : Builder) : Builder :=
  { (b.popTo Name.isBodyContext).pop with region := .table }

/-- Takes a tag again behind the group of rows that it ends. -/
def endTableBodyAt (b : Builder) : Outcome :=
  if b.finds Name.isTableBound fun id => (b.name id).among ["table", "tbody", "tfoot"] then
    again b.leaveTableBody
  else done b

/-- A token in a group of rows. -/
def takeInTableBody (b : Builder) : Token → Outcome
  | .startTag t =>
    let inBody := b.popTo Name.isBodyContext
    if t.isOne ["tr"] then done { inBody.enter t.label with region := .row }
    else if t.isOne ["th", "td"] then again { inBody.enter "tr" with region := .row }
    else if t.isOne partLabels then b.endTableBodyAt
    else b.startInTable t
  | .endTag t =>
    if t.isOne ["tbody", "tfoot", "thead"] then
      if b.findsHtml Name.isTableBound t.label then done b.leaveTableBody else done b
    else if t.isOne ["table"] then b.endTableBodyAt
    else if t.isOne ["body", "caption", "col", "colgroup", "html", "td", "th", "tr"] then done b
    else b.endInTable t
  | t => b.takeInTable t

/-- Leaves a row for the group around it. -/
def leaveRow (b : Builder) : Builder :=
  { (b.popTo Name.isRowContext).pop with region := .tableBody }

/-- Takes a tag again behind the row that it ends. -/
def endRowAt (b : Builder) : Outcome :=
  if b.findsHtml Name.isTableBound "tr" then again b.leaveRow else done b

/-- A token in a row. -/
def takeInRow (b : Builder) : Token → Outcome
  | .startTag t =>
    if t.isOne ["th", "td"] then
      done { ((b.popTo Name.isRowContext).enter t.label).mark with region := .cell }
    else if t.isOne (partLabels ++ ["tr"]) then b.endRowAt
    else b.startInTable t
  | .endTag t =>
    if t.isOne ["tr"] then
      if b.findsHtml Name.isTableBound "tr" then done b.leaveRow else done b
    else if t.isOne ["table"] then b.endRowAt
    else if t.isOne ["tbody", "tfoot", "thead"] then
      if b.findsHtml Name.isTableBound t.label then b.endRowAt else done b
    else if t.isOne ["body", "caption", "col", "colgroup", "html", "td", "th"] then done b
    else b.endInTable t
  | t => b.takeInTable t

/-- Leaves a cell for the row around it. -/
def leaveCell (b : Builder) : Builder :=
  { (b.closeImplied.popThrough Name.isCell).clearToMark with region := .row }

/-- A token in a cell. -/
def takeInCell (b : Builder) : Token → Outcome
  | .startTag t =>
    if t.isOne (partLabels ++ ["td", "th", "tr"]) then
      if b.finds Name.isTableBound fun id => (b.name id).isCell then again b.leaveCell else done b
    else b.startInBody t
  | .endTag t =>
    if t.isOne ["td", "th"] then
      if b.findsHtml Name.isTableBound t.label then
        done { (b.closeImplied.close t.label).clearToMark with region := .row }
      else done b
    else if t.isOne ["body", "caption", "col", "colgroup", "html"] then done b
    else if t.isOne ["table", "tbody", "tfoot", "thead", "tr"] then
      if b.findsHtml Name.isTableBound t.label then again b.leaveCell else done b
    else b.endInBody t
  | t => b.takeInBody t

/-! ## Selections -/

/-- Closes the innermost element if it has the label. -/
def popIf (b : Builder) (label : String) : Builder := if b.atHtml label then b.pop else b

/-- Leaves a selection. -/
def leaveSelect (b : Builder) : Builder := (b.close "select").resetRegion

/-- A start tag in a selection. -/
def startInSelect (b : Builder) (t : Tag) : Outcome :=
  if t.isOne ["option"] then done ((b.popIf "option").enter t.label)
  else if t.isOne ["optgroup"] then done (((b.popIf "option").popIf "optgroup").enter t.label)
  else if t.isOne ["hr"] then
    done (((b.popIf "option").popIf "optgroup").addVoid ⟨.html, t.label⟩)
  else if t.isOne ["select"] then
    if b.findsHtml Name.isSelectBound "select" then done b.leaveSelect else done b
  else if t.isOne ["input", "keygen", "textarea"] then
    if b.findsHtml Name.isSelectBound "select" then again b.leaveSelect else done b
  else if t.isOne ["script", "template"] then b.startInBody t
  else done b

/-- An end tag in a selection. -/
def endInSelect (b : Builder) (t : Tag) : Outcome :=
  if t.isOne ["optgroup"] then
    let b := if b.pop.stack ≠ [] ∧ b.pop.atHtml "optgroup" then b.popIf "option" else b
    done (b.popIf "optgroup")
  else if t.isOne ["option"] then done (b.popIf "option")
  else if t.isOne ["select"] then
    if b.findsHtml Name.isSelectBound "select" then done b.leaveSelect else done b
  else if t.isOne ["template"] then done b.endTemplate
  else done b

/-- A token in a selection. -/
def takeInSelect (b : Builder) : Token → Outcome
  | .text s => done (b.addText s)
  | .startTag t => b.startInSelect t
  | .endTag t => b.endInSelect t
  | _ => done b

/-- The tags that end a selection in a table. -/
def tableLabels : List String := ["caption", "table", "tbody", "tfoot", "thead", "tr", "td", "th"]

/-- A token in a selection in a table. -/
def takeInSelectInTable (b : Builder) : Token → Outcome
  | .startTag t => if t.isOne tableLabels then again b.leaveSelect else b.startInSelect t
  | .endTag t =>
    if t.isOne tableLabels then
      if b.findsHtml Name.isTableBound t.label then again b.leaveSelect else done b
    else b.endInSelect t
  | t => b.takeInSelect t

/-! ## Templates -/

/-- Takes a tag again in the region that it shows the template to be for. -/
def turnTemplate (b : Builder) (r : Region) : Outcome :=
  again { b with region := r, templates := r :: b.templates.drop 1 }

/-- A token in a template whose content is not known yet. -/
def takeInTemplate (b : Builder) : Token → Outcome
  | .startTag t =>
    if t.isOne ["base", "basefont", "bgsound", "link", "meta", "noframes", "script", "style",
        "template", "title"] then b.startInBody t
    else if t.isOne ["caption", "colgroup", "tbody", "tfoot", "thead"] then b.turnTemplate .table
    else if t.isOne ["col"] then b.turnTemplate .columns
    else if t.isOne ["tr"] then b.turnTemplate .tableBody
    else if t.isOne ["td", "th"] then b.turnTemplate .row
    else b.turnTemplate .body
  | .endTag t => if t.isOne ["template"] then done b.endTemplate else done b
  | t => b.takeInBody t

/-! ## Text of one element -/

/-- A token in the text of an element. Its end tag leads back to the region around it. -/
def takeInText (b : Builder) : Token → Outcome
  | .text s => done (b.addText s)
  | .endTag _ => done { b.pop with region := b.outer }
  | _ => done b

/-! ## All regions -/

/-- A token by the region that tokens are in. -/
def takeInRegion (b : Builder) (t : Token) : Outcome :=
  match b.region with
  | .body => b.takeInBody t
  | .text => b.takeInText t
  | .table => b.takeInTable t
  | .tableText => b.takeInTableText t
  | .caption =>
    match t with
    | .startTag t => b.tagInCaption t false
    | .endTag t => b.tagInCaption t true
    | t => b.takeInBody t
  | .columns => b.takeInColumns t
  | .tableBody => b.takeInTableBody t
  | .row => b.takeInRow t
  | .cell => b.takeInCell t
  | .select => b.takeInSelect t
  | .selectInTable => b.takeInSelectInTable t
  | .template => b.takeInTemplate t

/-! ## Drawings and formulas -/

/-- The start tags of HTML that end a drawing or a formula. -/
def breakingLabels : List String :=
  ["b", "big", "blockquote", "body", "br", "center", "code", "dd", "div", "dl", "dt", "em",
    "embed", "h1", "h2", "h3", "h4", "h5", "h6", "head", "hr", "i", "img", "li", "listing", "menu",
    "meta", "nobr", "ol", "p", "pre", "ruby", "s", "small", "span", "strong", "strike", "sub",
    "sup", "table", "tt", "u", "ul", "var"]

/-- Whether a start tag ends a drawing or a formula. -/
def breaksOut (t : Tag) : Bool :=
  t.isOne breakingLabels
    || (t.isOne ["font"] && t.attributes.any fun a =>
      ["color", "face", "size"].contains (String.ofList a.1))

/-- Closes drawings and formulas down to an element that holds HTML. -/
def breakOut (b : Builder) : Builder :=
  b.popTo fun n => n.vocabulary = .html || n.holdsText || n.holdsHtml

/-- An end tag in a drawing or a formula, with the open elements from the innermost on: it ends the
nearest one of its name, unless HTML comes before. -/
def endInForeign (b : Builder) (t : Tag) : Bool → List Nat → Outcome
  | _, [] => done b
  | _, [_] => done b
  | isFirst, id :: outer =>
    let n := b.name id
    if !isFirst && n.vocabulary = .html then b.takeInRegion (.endTag t)
    else if n.label = t.label then done { b with stack := outer }
    else b.endInForeign t false outer

/-- A token in a drawing or a formula. -/
def takeInForeign (b : Builder) : Token → Outcome
  | .null => done (b.addText ['\uFFFD'])
  | .text s => done (b.addText s)
  | .startTag t =>
    if breaksOut t then b.breakOut.takeInRegion (.startTag t)
    else done (b.enterForeign b.currentName.vocabulary t)
  | .endTag t =>
    if t.isOne ["br", "p"] then b.breakOut.takeInRegion (.endTag t)
    else b.endInForeign t true b.stack
  | _ => done b

/-- Whether the innermost element takes a token as part of a drawing or a formula. -/
def takesAsForeign (b : Builder) (t : Token) : Bool :=
  let n := b.currentName
  b.foreign &&
    match t with
    | .text _ | .null => !n.holdsText && !n.holdsHtml
    | .startTag tag =>
      if n.holdsText then tag.isOne ["mglyph", "malignmark"]
      else if n.holdsHtml then false
      else !(n = ⟨.math, "annotation-xml"⟩ && tag.isOne ["svg"])
    | _ => true

/-- One step of taking a token. -/
def takeOnce (b : Builder) (t : Token) : Outcome :=
  if b.takesAsForeign t then b.takeInForeign t else b.takeInRegion t

end Builder

end TaintClient.Markup

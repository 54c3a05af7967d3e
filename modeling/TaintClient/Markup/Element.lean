/-
  Names of elements, and the sets of them that steer how a tree is built: which elements bound a
  search, which end by themselves, and which are kept apart from mere formatting.
-/

namespace TaintClient.Markup

/-- The vocabulary that an element belongs to. -/
inductive Vocabulary
  | html
  | svg
  | math
deriving DecidableEq, Repr

/-- The name of an element, in small letters. -/
structure Name where
  vocabulary : Vocabulary := .html
  label : String
deriving DecidableEq, Repr

namespace Name

/-- Whether it is the HTML element of that label. -/
def isHtml (n : Name) (label : String) : Bool := n.vocabulary = .html && n.label = label

/-- Whether it is an HTML element with one of the labels. -/
def among (n : Name) (labels : List String) : Bool :=
  n.vocabulary = .html && labels.contains n.label

/-- The elements of formulas whose content is text. -/
def holdsText (n : Name) : Bool :=
  n.vocabulary = .math && ["mi", "mo", "mn", "ms", "mtext"].contains n.label

/-- The elements of drawings whose content is HTML. -/
def holdsHtml (n : Name) : Bool :=
  n.vocabulary = .svg && ["foreignobject", "desc", "title"].contains n.label

/-! ## What bounds a search among the open elements -/

/-- Bounds of most searches. -/
def isBound (n : Name) : Bool :=
  n.among ["applet", "caption", "html", "table", "td", "th", "marquee", "object", "template"]
    || n.holdsText || n.holdsHtml

/-- Bounds of a search for a list item. -/
def isListBound (n : Name) : Bool := n.isBound || n.among ["ol", "ul"]

/-- Bounds of a search for a paragraph. -/
def isButtonBound (n : Name) : Bool := n.isBound || n.isHtml "button"

/-- Bounds of a search for a part of a table. -/
def isTableBound (n : Name) : Bool := n.among ["html", "table", "template"]

/-- Bounds of a search for a selection. -/
def isSelectBound (n : Name) : Bool := !n.among ["optgroup", "option"]

/-- What a row group stands in. -/
def isBodyContext (n : Name) : Bool := n.among ["tbody", "tfoot", "thead", "template", "html"]

/-- What a row stands in. -/
def isRowContext (n : Name) : Bool := n.among ["tr", "template", "html"]

/-! ## Kinds of elements -/

/-- The elements that need no end tag. -/
def endsByItself (n : Name) : Bool :=
  n.among ["dd", "dt", "li", "option", "optgroup", "p", "rb", "rp", "rt", "rtc"]

/-- The elements that end with a template. -/
def endsWithTemplate (n : Name) : Bool :=
  n.endsByItself
    || n.among ["caption", "colgroup", "tbody", "td", "tfoot", "th", "thead", "tr"]

/-- The elements that have a structure of their own; what is left is formatting and unknown. -/
def isStructural (n : Name) : Bool :=
  n.among ["address", "applet", "area", "article", "aside", "base", "basefont", "bgsound",
    "blockquote", "body", "br", "button", "caption", "center", "col", "colgroup", "dd", "details",
    "dir", "div", "dl", "dt", "embed", "fieldset", "figcaption", "figure", "footer", "form",
    "frame", "frameset", "h1", "h2", "h3", "h4", "h5", "h6", "head", "header", "hgroup", "hr",
    "html", "iframe", "img", "input", "isindex", "li", "link", "listing", "main", "marquee",
    "menu", "meta", "nav", "noembed", "noframes", "noscript", "object", "ol", "p", "param",
    "plaintext", "pre", "script", "section", "select", "source", "style", "summary", "table",
    "tbody", "td", "template", "textarea", "tfoot", "th", "thead", "title", "tr", "track", "ul",
    "wbr", "xmp"]

/-- The headings. -/
def isHeading (n : Name) : Bool := n.among ["h1", "h2", "h3", "h4", "h5", "h6"]

/-- The cells of a table. -/
def isCell (n : Name) : Bool := n.among ["td", "th"]

/-- The parts of a table that hold no text themselves: what does not belong there is moved out. -/
def movesContentOut (n : Name) : Bool := n.among ["table", "tbody", "tfoot", "thead", "tr"]

end Name

end TaintClient.Markup

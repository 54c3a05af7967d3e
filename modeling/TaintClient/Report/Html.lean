/-
  The fragment that the result region shows: a report as a coloured panel, any other answer as a
  paragraph, and the placeholder of a submission under way. The data is markup and is inserted as
  it is, its line breaks turned into break elements; title and colour are made harmless first.
-/
import TaintClient.Response

namespace TaintClient.Report

/-- Every line feed and every carriage return becomes a break element. -/
def newlinesToBreaks : List Char → List Char
  | [] => []
  | c :: cs =>
    if c = '\n' ∨ c = '\r' then '<' :: 'b' :: 'r' :: '>' :: newlinesToBreaks cs
    else c :: newlinesToBreaks cs

/-- How one character of a text stands in markup. -/
def escapeChar (c : Char) : List Char :=
  if c = '&' then "&amp;".toList
  else if c = '<' then "&lt;".toList
  else if c = '>' then "&gt;".toList
  else [c]

/-- A text as markup. -/
def escapeText (s : List Char) : List Char := s.flatMap escapeChar

/-- Whether a character can stand in a CSS colour. -/
def isColorChar (c : Char) : Bool :=
  c.isAlphanum || c = '#' || c = '(' || c = ')' || c = ',' || c = '.' || c = '%' || c = ' '

/-- The colour without the characters that could leave its declaration or its attribute. -/
def cssColor (s : List Char) : List Char := s.filter isColorChar

/-- The elements around every fragment. -/
def wrapperOpen : String :=
  "<div class=\"hope\">  <div class=\"am-g am-container\">" ++
    "    <div class=\"am-u-lg-6 am-u-md-6 am-u-sm-12\">        "

/-- Their ends. -/
def wrapperClose : String := "    </div>  </div></div>"

/-- Puts the wrapper around a fragment. -/
def wrap (inner : List Char) : List Char :=
  wrapperOpen.toList ++ inner ++ wrapperClose.toList

/-- A paragraph. -/
def paragraph (body : List Char) : List Char := "<p>".toList ++ body ++ "</p>".toList

/-- The text shown while a submission is under way. -/
def analyzingText : String := "Analyzing"

/-- The fragment shown while a submission is under way. -/
def placeholder : String := String.ofList (wrap (paragraph analyzingText.toList))

/-- The panel of a report up to its data. -/
def panelOpen (title color : List Char) : List Char :=
  "<div class=\"am-panel\" style=\"border-color: ".toList ++ color ++
    ";\"><div class=\"am-panel-hd\" style=\"background-color: ".toList ++ color ++
    "; color: #fff;\"><h3 class=\"am-panel-title\">".toList ++ title ++
    "</h3></div><div class=\"am-panel-bd\">".toList

/-- The panel of a report. -/
def panel (title color body : List Char) : List Char :=
  panelOpen (escapeText title) (cssColor color) ++ paragraph body ++ "</div></div>".toList

/-- The fragment of a response: a panel when it has a colour, a paragraph otherwise. -/
def html (r : Response) : String :=
  let body := newlinesToBreaks r.data.toList
  String.ofList <| wrap <|
    match r.color with
    | some color => panel (r.title.getD "").toList color.toList body
    | none => paragraph body

end TaintClient.Report

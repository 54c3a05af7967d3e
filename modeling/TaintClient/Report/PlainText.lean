/-
  The report as text: its title, and what its markup shows, without blanks at the ends of lines
  and without empty lines at the end.
-/
import TaintClient.Markup.Fragment
import TaintClient.Response

namespace TaintClient.Report

/-- A space that does not break a line is an ordinary space in the text. -/
def plainSpace (c : Char) : Char := if c = '\u00A0' then ' ' else c

/-- The text with one line feed where it ends in several. -/
def endOnce (s : List Char) : List Char :=
  match (s.reverse.takeWhile (· = '\n')) with
  | [] => s
  | [_] => s
  | _ => Text.dropEnd (· = '\n') s ++ ['\n']

/-- The lines of what the markup shows, each without trailing blanks and ended by a line feed. -/
def bodyText (markup : List Char) : List Char :=
  (Text.lines ((Markup.plainText markup).map plainSpace)).flatMap (Text.trimEnd · ++ ['\n'])

/-- The title over the body, if there is one. -/
def heading (title : Option String) : List Char :=
  match title with
  | none => []
  | some title => if title.isEmpty then [] else title.toList ++ ['\n', '\n']

/-- The report as text. -/
def plainText (r : Response) : String :=
  String.ofList (endOnce (heading r.title ++ bodyText r.data.toList))

end TaintClient.Report

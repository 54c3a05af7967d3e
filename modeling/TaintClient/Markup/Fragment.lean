/-
  The tree of a fragment of markup, as a browser builds it inside a body. Every text has a tree:
  what is misplaced is moved, what is missing is added, and what means nothing is dropped.
-/
import TaintClient.Text.Blank
import TaintClient.Markup.Region

namespace TaintClient.Markup

namespace Builder

/-- Takes a token in at most `n` steps. -/
def takeWithin : Nat → Builder → Token → Builder × Option Content
  | 0, b, _ => (b, none)
  | n + 1, b, t =>
    let o := b.takeOnce t
    if o.again then takeWithin n o.builder t else (o.builder, o.content)

/-- Takes a token. A step that asks for another one closes an element or enters a part of a table,
of which there are few. -/
def take (b : Builder) (t : Token) : Builder × Option Content :=
  takeWithin (2 * b.stack.length + 16) b t

/-- Takes text. Among columns blanks stay where they are, so they are taken on their own. -/
def takeRuns (b : Builder) (s : List Char) : Builder :=
  let runs := if b.region = .columns then s.splitBy fun c d => isSpace c = isSpace d else [s]
  runs.foldl (fun b run => (b.take (.text run)).1) b

/-- Takes a token as it comes from the text: a line feed that the element before it skips is cut
off. -/
def feed (b : Builder) (t : Token) : Builder × Option Content :=
  let skips := b.skipsLineFeed
  let b := { b with skipsLineFeed := false }
  match t with
  | .fault | .doctype => (b, none)
  | .text s =>
    let s := if skips ∧ s.head? = some '\n' then s.drop 1 else s
    (if s.isEmpty then b else b.takeRuns s, none)
  | t => b.take t

/-- Takes the tokens of one step and reads on accordingly. -/
def feedAll (b : Builder) (r : Reading) (ts : List Token) : Builder × Reading :=
  ts.foldl (fun (b, r) t =>
    let (b, content) := b.feed t
    (b, { r with content := content.getD r.content })) (b, r)

/-- Takes a whole text. What is open at its end ends with it. -/
def takeText (b : Builder) (r : Reading) (s : List Char) : Builder :=
  match s with
  | [] => if b.region = .tableText then b.addTableText else b
  | c :: cs =>
    let t := step r b.foreign c cs
    let (b, r) := b.feedAll t.reading t.tokens
    have : t.rest.length < cs.length + 1 := Nat.lt_succ_of_le (length_step _ _ c cs)
    takeText b r t.rest
termination_by s.length
decreasing_by exact this

end Builder

/-- The tree of a fragment. A mark of byte order at the start is not part of the text. -/
def fragment (s : List Char) : Tree :=
  let s := if s.head? = some '\uFEFF' then s.drop 1 else s
  (({} : Builder).takeText {} (Text.unifyLineEnds s)).tree

/-- The text of a fragment without its markup. -/
def plainText (s : List Char) : List Char := (fragment s).text

end TaintClient.Markup

/-
  Regular expressions over characters, and whether one occurs in a text. An expression is matched
  character by character: what is left of it behind a character is its derivative. The marks for
  the start and the end of the text stand for no character.

  This is a part of what such expressions can be elsewhere: letters behind a backslash stand for
  sets of ASCII characters only, and flags, names of groups and sets, numbers of characters and
  the ends of words are refused.
-/
import TaintClient.Text.Alphanumeric
import TaintClient.Text.Blank

namespace TaintClient.Text

/-- A set of characters: those in some range, or those in none. -/
structure CharSet where
  ranges : List (Char × Char)
  complement : Bool := false
deriving DecidableEq, Repr

/-- Whether a set holds a character. -/
def CharSet.contains (s : CharSet) (c : Char) : Bool :=
  s.ranges.any (fun r => r.1 ≤ c && c ≤ r.2) != s.complement

/-- A regular expression. -/
inductive Pattern
  | never
  | empty
  | one (set : CharSet)
  | startMark
  | endMark
  | seq (p q : Pattern)
  | alt (p q : Pattern)
  | star (p : Pattern)
deriving DecidableEq, Repr

namespace Pattern

/-! ## Matching -/

/-- Whether an expression stands for the empty text at a place, given whether that is the start of
the text and whether it is its end. -/
def nullable (atStart atEnd : Bool) : Pattern → Bool
  | .never => false
  | .empty => true
  | .one _ => false
  | .startMark => atStart
  | .endMark => atEnd
  | .seq p q => p.nullable atStart atEnd && q.nullable atStart atEnd
  | .alt p q => p.nullable atStart atEnd || q.nullable atStart atEnd
  | .star _ => true

/-- One expression behind the other, without parts that stand for nothing. -/
def join : Pattern → Pattern → Pattern
  | .never, _ => .never
  | .empty, q => q
  | p, q => .seq p q

/-- One expression or the other, without parts that stand for nothing. -/
def either : Pattern → Pattern → Pattern
  | .never, q => q
  | p, .never => p
  | p, q => if p = q then p else .alt p q

/-- What is left of an expression behind a character, given whether that is the first of the
text. -/
def derivative (atStart : Bool) (c : Char) : Pattern → Pattern
  | .never | .empty | .startMark | .endMark => .never
  | .one s => if s.contains c then .empty else .never
  | .seq p q =>
    either (join (p.derivative atStart c) q)
      (if p.nullable atStart false then q.derivative atStart c else .never)
  | .alt p q => either (p.derivative atStart c) (q.derivative atStart c)
  | .star p => join (p.derivative atStart c) (.star p)

/-- Whether some beginning of a text matches. -/
def matchesStart (atStart : Bool) (p : Pattern) : List Char → Bool
  | [] => p.nullable atStart true
  | c :: cs => p.nullable atStart false || matchesStart false (p.derivative atStart c) cs

/-- Whether some part of a text matches. -/
def occursFrom (atStart : Bool) (p : Pattern) : List Char → Bool
  | [] => p.nullable atStart true
  | c :: cs => p.matchesStart atStart (c :: cs) || occursFrom false p cs

/-- Whether an expression occurs in a text. -/
def occursIn (p : Pattern) (s : List Char) : Bool := p.occursFrom true s

/-! ## Reading -/

/-- An expression for a single character. -/
def char (c : Char) : Pattern := .one ⟨[(c, c)], false⟩

/-- Any character but a line feed. -/
def anyChar : Pattern := .one ⟨[('\n', '\n')], true⟩

/-- The sets that have a letter: digits, blanks and the characters of words, of ASCII. -/
def classRanges? : Char → Option (List (Char × Char))
  | 'd' => some [('0', '9')]
  | 's' => some [('\t', '\r'), (' ', ' ')]
  | 'w' => some [('0', '9'), ('A', 'Z'), ('_', '_'), ('a', 'z')]
  | _ => none

/-- What a backslash and a character stand for. -/
def escaped? (c : Char) : Option Pattern :=
  match classRanges? c, classRanges? c.toLower with
  | some ranges, _ => some (.one ⟨ranges, false⟩)
  | none, some ranges => some (.one ⟨ranges, true⟩)
  | none, none =>
    if c = 'n' then some (char '\n')
    else if c = 't' then some (char '\t')
    else if c = 'r' then some (char '\r')
    else if c.isAlphanum ∨ 0x80 ≤ c.toNat then none
    else some (char c)

/-- At least `low` times in a row, and no more than `high` times if that is given. -/
def repeated (p : Pattern) (low : Nat) (high : Option Nat) : Pattern :=
  let tail := match high with
    | none => .star p
    | some high =>
      (List.range (high - low)).foldl (fun q _ => .alt .empty (.seq p q)) .empty
  (List.range low).foldl (fun q _ => join p q) tail

/-- The ranges between brackets, and the text behind the closing one. -/
def readRanges (ranges : List (Char × Char)) :
    List Char → Option (List (Char × Char) × List Char)
  | [] => none
  | ']' :: rest => some (ranges.reverse, rest)
  | '\\' :: c :: rest =>
    match classRanges? c with
    | some more => readRanges (more ++ ranges) rest
    | none => if c.isAlphanum then none else readRanges ((c, c) :: ranges) rest
  | a :: '-' :: b :: rest =>
    if b = ']' then some (((('-', '-') :: (a, a) :: ranges)).reverse, rest)
    else if a ≤ b ∧ b ≠ '\\' ∧ b ≠ '[' ∧ a ≠ '[' then readRanges ((a, b) :: ranges) rest
    else none
  | c :: rest => if c = '[' then none else readRanges ((c, c) :: ranges) rest

/-- A set behind its opening bracket. A closing one at its start belongs to it. -/
def readSet (s : List Char) : Option (Pattern × List Char) :=
  let (complement, s) := match s with
    | '^' :: s => (true, s)
    | s => (false, s)
  let (start, s) := match s with
    | ']' :: s => ([(']', ']')], s)
    | s => ([], s)
  (readRanges start s).map fun r => (.one ⟨r.1, complement⟩, r.2)

/-- A number of digits. -/
def readCount (s : List Char) : Option (Nat × List Char) :=
  let digits := s.takeWhile Char.isDigit
  if digits.isEmpty ∨ 4 < digits.length then none
  else some (digits.foldl (fun n c => n * 10 + (c.toNat - 48)) 0, s.drop digits.length)

/-- How often an expression is repeated, behind the opening brace. -/
def readTimes (s : List Char) : Option ((Nat × Option Nat) × List Char) :=
  match readCount s with
  | some (n, '\x7d' :: rest) => some ((n, some n), rest)
  | some (n, ',' :: '\x7d' :: rest) => some ((n, none), rest)
  | some (n, ',' :: rest) =>
    match readCount rest with
    | some (m, '\x7d' :: rest) => if n ≤ m then some ((n, some m), rest) else none
    | _ => none
  | _ => none

/-- The expression with the signs of repetition behind it. A question mark behind a sign changes
only which part matches, not whether one does. -/
def readRepetition : Nat → Pattern → List Char → Option (Pattern × List Char)
  | 0, _, _ => none
  | fuel + 1, p, s =>
    let lazyMark : List Char → List Char
      | '?' :: s => s
      | s => s
    match s with
    | '*' :: s => readRepetition fuel (p.repeated 0 none) (lazyMark s)
    | '+' :: s => readRepetition fuel (p.repeated 1 none) (lazyMark s)
    | '?' :: s => readRepetition fuel (p.repeated 0 (some 1)) (lazyMark s)
    | '\x7b' :: s =>
      match readTimes s with
      | some (times, s) => readRepetition fuel (p.repeated times.1 times.2) (lazyMark s)
      | none => none
    | s => some (p, s)

/-- Reads expressions up to the end or a closing parenthesis. `before` are the choices read so
far, and `current` the one that is being read. -/
def readChoices : Nat → Pattern → Pattern → List Char → Option (Pattern × List Char)
  | 0, _, _, _ => none
  | fuel + 1, before, current, s =>
    let more (item : Option (Pattern × List Char)) : Option (Pattern × List Char) :=
      match item.bind fun (p, s) => readRepetition (s.length + 1) p s with
      | some (p, s) => readChoices fuel before (join current p) s
      | none => none
    match s with
    | [] => some (either before current, [])
    | ')' :: s => some (either before current, ')' :: s)
    | '|' :: s => readChoices fuel (either before current) .empty s
    | '(' :: s =>
      let s := match s with
        | '?' :: ':' :: s => s
        | s => s
      match readChoices fuel .never .empty s with
      | some (p, ')' :: s) => more (some (p, s))
      | _ => none
    | '[' :: s => more (readSet s)
    | '.' :: s => more (some (anyChar, s))
    | '^' :: s => more (some (.startMark, s))
    | '$' :: s => more (some (.endMark, s))
    | '\\' :: c :: s => more ((escaped? c).map (·, s))
    | c :: s => if "\\*+?\x7b".toList.contains c then none else more (some (char c, s))

/-- The expression that a text spells. -/
def read? (s : List Char) : Option Pattern :=
  match readChoices (s.length + 1) .never .empty s with
  | some (p, []) => some p
  | _ => none

/-- The test whether the expression that a text spells occurs. A text that spells none is given
back. -/
def test (s : String) : Except String (String → Bool) :=
  match read? s.toList with
  | some p => .ok fun t => p.occursIn t.toList
  | none => .error s

end Pattern

end TaintClient.Text

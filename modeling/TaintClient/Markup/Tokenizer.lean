/-
  From a text to its tokens, one at a time. How the text is read depends on the element it is in:
  ordinarily everything counts, in a title only references and the end tag, in a style sheet the
  end tag alone, in a script the end tag as long as it is not hidden in a comment.
-/
import TaintClient.Markup.Token

namespace TaintClient.Markup

/-- Where a reader is inside a script. `escaped` is inside `<!--`, `doubled` inside a further
script element in there; the number counts dashes just read, up to two. -/
inductive ScriptPlace
  | plain
  | opening
  | openingDash
  | escaped (dashes : Nat)
  | doubling (word : List Char)
  | doubled (dashes : Nat)
  | undoubling (word : List Char)
deriving DecidableEq, Repr

/-- How the text is read. -/
inductive Content
  | markup
  | title
  | raw
  | script (place : ScriptPlace)
  | plain
  | characterData
deriving DecidableEq, Repr

/-- The reader's state: how the text is read, and the last start tag. -/
structure Reading where
  content : Content := .markup
  lastStart : List Char := []
deriving Repr

/-- The tokens of one step, the state and the text behind them. -/
structure Step where
  tokens : List Token
  reading : Reading
  rest : List Char

/-- Whether a character ends the name of an end tag. -/
def endsName (c : Char) : Bool := isSpace c || c = '/' || c = '>'

/-- The end tag of the element that the text is in, at the start of `s` behind `</`. The answer
is the step past it. -/
def ownEndTag? (r : Reading) (s : List Char) : Option Step :=
  let n := r.lastStart.length
  if 0 < n ∧ beginsWith r.lastStart s ∧ (s.drop n).head?.any endsName then
    match readTag .name {} s with
    | none => some ⟨[], { r with content := .markup }, []⟩
    | some (t, rest) => some ⟨[.endTag t], { r with content := .markup }, rest⟩
  else none

/-- The step of a tag that starts at `s`, its name first. -/
def tagStep (r : Reading) (s : List Char) (isEnd : Bool) : Step :=
  match readTag .name {} s with
  | none => ⟨[], r, []⟩
  | some (t, rest) =>
    if isEnd then ⟨[.endTag t], r, rest⟩
    else ⟨[.startTag t], { r with lastStart := t.name }, rest⟩

/-- The step of a declaration that starts at `s`, behind `<!`. Sections exist in foreign elements
only. -/
def declarationStep (r : Reading) (foreign : Bool) (s : List Char) : Step :=
  if "--".toList.isPrefixOf s then ⟨[.comment], r, skipComment .opening (s.drop 2)⟩
  else if beginsWith "doctype".toList s then ⟨[.doctype], r, skipPast '>' s⟩
  else if foreign ∧ "[CDATA[".toList.isPrefixOf s then
    ⟨[], { r with content := .characterData }, s.drop 7⟩
  else ⟨[.comment], r, skipPast '>' s⟩

/-- The step behind a less-than sign in ordinary text. -/
def lessStep (r : Reading) (foreign : Bool) (s : List Char) : Step :=
  match s with
  | [] => ⟨[.text ['<']], r, []⟩
  | '!' :: t => declarationStep r foreign t
  | '/' :: t =>
    match t with
    | [] => ⟨[.text ['<', '/']], r, []⟩
    | c :: u =>
      if c.isAlpha then tagStep r t true
      else if c = '>' then ⟨[.fault], r, u⟩
      else ⟨[.comment], r, skipPast '>' t⟩
  | c :: _ =>
    if c.isAlpha then tagStep r s false
    else if c = '?' then ⟨[.comment], r, skipPast '>' s⟩
    else ⟨[.fault, .text ['<']], r, s⟩

/-- The step behind an ampersand. -/
def ampersandStep (r : Reading) (s : List Char) : Step :=
  match reference? false s with
  | none => ⟨[.text ['&']], r, s⟩
  | some ref => ⟨(if ref.closed then [] else [.fault]) ++ [.text ref.text], r, ref.rest⟩

/-- The step behind a less-than sign where only the element's own end tag counts. -/
def rawLessStep (r : Reading) (s : List Char) : Step :=
  match s with
  | '/' :: t => (ownEndTag? r t).getD ⟨[.text ['<']], r, s⟩
  | _ => ⟨[.text ['<']], r, s⟩

/-- A state with another place inside a script. -/
def Reading.at (r : Reading) (p : ScriptPlace) : Reading := { r with content := .script p }

/-- The word that opens and closes a script inside a comment of a script. -/
def scriptWord : List Char := "script".toList

/-- A character of a script as text. -/
def scriptText (c : Char) : Token := .text [if c = '\x00' then '\uFFFD' else c]

/-- The step of a character of a script, outside comments. -/
def scriptPlainStep (r : Reading) (c : Char) (s : List Char) : Step :=
  if c = '<' then
    match s with
    | '!' :: t => ⟨[.text ['<', '!']], r.at .opening, t⟩
    | _ => rawLessStep (r.at .plain) s
  else ⟨[scriptText c], r.at .plain, s⟩

/-- The step of a character inside a comment of a script. -/
def scriptEscapedStep (r : Reading) (dashes : Nat) (c : Char) (s : List Char) : Step :=
  if c = '-' then ⟨[scriptText c], r.at (.escaped (min 2 (dashes + 1))), s⟩
  else if c = '>' ∧ dashes = 2 then ⟨[scriptText c], r.at .plain, s⟩
  else if c = '<' then
    match s with
    | d :: t =>
      if d.isAlpha then ⟨[.text ['<', d]], r.at (.doubling [d.toLower]), t⟩
      else rawLessStep (r.at (.escaped 0)) s
    | [] => rawLessStep (r.at (.escaped 0)) s
  else ⟨[scriptText c], r.at (.escaped 0), s⟩

/-- The step of a character inside a script element inside a comment of a script. -/
def scriptDoubledStep (r : Reading) (dashes : Nat) (c : Char) (s : List Char) : Step :=
  if c = '-' then ⟨[scriptText c], r.at (.doubled (min 2 (dashes + 1))), s⟩
  else if c = '>' ∧ dashes = 2 then ⟨[scriptText c], r.at .plain, s⟩
  else if c = '<' then
    match s with
    | '/' :: t => ⟨[.text ['<', '/']], r.at (.undoubling []), t⟩
    | _ => ⟨[scriptText c], r.at (.doubled 0), s⟩
  else ⟨[scriptText c], r.at (.doubled 0), s⟩

/-- The step of a character inside a script. -/
def scriptStep (r : Reading) (p : ScriptPlace) (c : Char) (s : List Char) : Step :=
  let stay (q : ScriptPlace) : Step := ⟨[scriptText c], r.at q, s⟩
  match p with
  | .plain => scriptPlainStep r c s
  | .opening => if c = '-' then stay .openingDash else scriptPlainStep r c s
  | .openingDash => if c = '-' then stay (.escaped 2) else scriptPlainStep r c s
  | .escaped dashes => scriptEscapedStep r dashes c s
  | .doubling word =>
    if endsName c then stay (if word.reverse = scriptWord then .doubled 0 else .escaped 0)
    else if c.isAlpha then stay (.doubling (c.toLower :: word))
    else scriptEscapedStep r 0 c s
  | .doubled dashes => scriptDoubledStep r dashes c s
  | .undoubling word =>
    if endsName c then stay (if word.reverse = scriptWord then .escaped 0 else .doubled 0)
    else if c.isAlpha then stay (.undoubling (c.toLower :: word))
    else scriptDoubledStep r 0 c s

/-- The characters up to the next one that satisfies `p`, as one step of text. -/
def runStep (r : Reading) (p : Char → Bool) (s : List Char) : Step :=
  ⟨[.text (s.takeWhile (fun c => !p c))], r, s.dropWhile (fun c => !p c)⟩

/-- Whether a character may begin something else than text. -/
def isMarkup (c : Char) : Bool := c = '<' || c = '&' || c = '\x00'

/-- The step at a non-empty text. -/
def step (r : Reading) (foreign : Bool) (c : Char) (s : List Char) : Step :=
  match r.content with
  | .markup =>
    if c = '<' then lessStep r foreign s
    else if c = '&' then ampersandStep r s
    else if c = '\x00' then ⟨[.fault, .null], r, s⟩
    else runStep r isMarkup (c :: s)
  | .title =>
    if c = '<' then rawLessStep r s
    else if c = '&' then ampersandStep r s
    else if c = '\x00' then ⟨[.text ['\uFFFD']], r, s⟩
    else runStep r isMarkup (c :: s)
  | .raw =>
    if c = '<' then rawLessStep r s
    else if c = '\x00' then ⟨[.text ['\uFFFD']], r, s⟩
    else runStep r (fun d => d = '<' || d = '\x00') (c :: s)
  | .script p => scriptStep r p c s
  | .plain =>
    if c = '\x00' then ⟨[.text ['\uFFFD']], r, s⟩ else runStep r (· = '\x00') (c :: s)
  | .characterData =>
    if c = ']' ∧ "]>".toList.isPrefixOf s then ⟨[], { r with content := .markup }, s.drop 2⟩
    else if c = '\x00' then ⟨[.null], r, s⟩
    else if c = ']' then ⟨[.text [']']], r, s⟩
    else runStep r (fun d => d = ']' || d = '\x00') (c :: s)

/-! ## Every step shortens the text -/

theorem length_tagStep (r : Reading) (s : List Char) (b : Bool) :
    (tagStep r s b).rest.length ≤ s.length := by
  unfold tagStep
  split
  · simp
  · rename_i h
    split <;> exact Nat.le_of_lt (length_readTag h)

theorem length_declarationStep (r : Reading) (f : Bool) (s : List Char) :
    (declarationStep r f s).rest.length ≤ s.length := by
  unfold declarationStep
  split
  · exact Nat.le_trans (length_skipComment _ _) (by simp)
  · split
    · exact length_skipPast _ _
    · split
      · simp
      · exact length_skipPast _ _

theorem length_lessStep (r : Reading) (f : Bool) (s : List Char) :
    (lessStep r f s).rest.length ≤ s.length := by
  unfold lessStep
  split
  · simp
  · exact Nat.le_succ_of_le (length_declarationStep _ _ _)
  · split
    · simp
    · split
      · exact Nat.le_succ_of_le (length_tagStep _ _ _)
      · split
        · simp only [List.length_cons]
          omega
        · exact Nat.le_succ_of_le (length_skipPast _ _)
  · split
    · exact length_tagStep _ _ _
    · split
      · exact length_skipPast _ _
      · exact Nat.le_refl _

theorem length_ampersandStep (r : Reading) (s : List Char) :
    (ampersandStep r s).rest.length ≤ s.length := by
  unfold ampersandStep
  split
  · exact Nat.le_refl _
  · rename_i h
    exact length_reference h

theorem length_ownEndTag {r : Reading} {s : List Char} {t : Step} (h : ownEndTag? r s = some t) :
    t.rest.length ≤ s.length := by
  unfold ownEndTag? at h
  simp only at h
  split at h
  · split at h
    · injection h with h
      subst h
      simp
    · rename_i hr
      injection h with h
      subst h
      exact Nat.le_of_lt (length_readTag hr)
  · cases h

theorem length_rawLessStep (r : Reading) (s : List Char) :
    (rawLessStep r s).rest.length ≤ s.length := by
  unfold rawLessStep
  split
  · rename_i t
    cases h : ownEndTag? r t with
    | none => simp
    | some u => exact Nat.le_succ_of_le (length_ownEndTag h)
  · exact Nat.le_refl _

theorem length_scriptPlainStep (r : Reading) (c : Char) (s : List Char) :
    (scriptPlainStep r c s).rest.length ≤ s.length := by
  unfold scriptPlainStep
  split
  · split
    · simp
    · exact length_rawLessStep _ _
  · exact Nat.le_refl _

theorem length_scriptEscapedStep (r : Reading) (n : Nat) (c : Char) (s : List Char) :
    (scriptEscapedStep r n c s).rest.length ≤ s.length := by
  unfold scriptEscapedStep
  split
  · exact Nat.le_refl _
  · split
    · exact Nat.le_refl _
    · split
      · split
        · split
          · simp
          · exact length_rawLessStep _ _
        · exact length_rawLessStep _ _
      · exact Nat.le_refl _

theorem length_scriptDoubledStep (r : Reading) (n : Nat) (c : Char) (s : List Char) :
    (scriptDoubledStep r n c s).rest.length ≤ s.length := by
  unfold scriptDoubledStep
  split
  · exact Nat.le_refl _
  · split
    · exact Nat.le_refl _
    · split
      · split
        · simp
        · exact Nat.le_refl _
      · exact Nat.le_refl _

theorem length_scriptStep (r : Reading) (p : ScriptPlace) (c : Char) (s : List Char) :
    (scriptStep r p c s).rest.length ≤ s.length := by
  unfold scriptStep
  cases p with
  | plain => exact length_scriptPlainStep _ _ _
  | opening =>
    simp only
    split
    · exact Nat.le_refl _
    · exact length_scriptPlainStep _ _ _
  | openingDash =>
    simp only
    split
    · exact Nat.le_refl _
    · exact length_scriptPlainStep _ _ _
  | escaped n => exact length_scriptEscapedStep _ _ _ _
  | doubling w =>
    simp only
    split
    · exact Nat.le_refl _
    · split
      · exact Nat.le_refl _
      · exact length_scriptEscapedStep _ _ _ _
  | doubled n => exact length_scriptDoubledStep _ _ _ _
  | undoubling w =>
    simp only
    split
    · exact Nat.le_refl _
    · split
      · exact Nat.le_refl _
      · exact length_scriptDoubledStep _ _ _ _

theorem length_runStep {p : Char → Bool} {c : Char} (r : Reading) (s : List Char)
    (h : p c = false) : (runStep r p (c :: s)).rest.length ≤ s.length := by
  unfold runStep
  simp only [List.dropWhile_cons, h, Bool.not_false, if_true]
  exact length_dropWhile _ _

theorem length_step (r : Reading) (f : Bool) (c : Char) (s : List Char) :
    (step r f c s).rest.length ≤ s.length := by
  unfold step
  split
  · split
    · exact length_lessStep _ _ _
    · split
      · exact length_ampersandStep _ _
      · split
        · exact Nat.le_refl _
        · exact length_runStep _ _ (by simp_all [isMarkup])
  · split
    · exact length_rawLessStep _ _
    · split
      · exact length_ampersandStep _ _
      · split
        · exact Nat.le_refl _
        · exact length_runStep _ _ (by simp_all [isMarkup])
  · split
    · exact length_rawLessStep _ _
    · split
      · exact Nat.le_refl _
      · exact length_runStep _ _ (by simp_all)
  · exact length_scriptStep _ _ _ _
  · split
    · exact Nat.le_refl _
    · exact length_runStep _ _ (by simp_all)
  · split
    · simp
    · split
      · exact Nat.le_refl _
      · split
        · exact Nat.le_refl _
        · exact length_runStep _ _ (by simp_all)

/-- The tokens of a text read as ordinary markup throughout. -/
def tokens (r : Reading) (s : List Char) : List Token :=
  match s with
  | [] => [.eof]
  | c :: cs =>
    let t := step r false c cs
    have : t.rest.length < cs.length + 1 := Nat.lt_succ_of_le (length_step r false c cs)
    t.tokens ++ tokens t.reading t.rest
termination_by s.length
decreasing_by exact this

end TaintClient.Markup

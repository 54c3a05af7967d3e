/-
  Character references: `&amp;`, `&#38;`, `&#x26;`. A reference that is none of these is text.
  A name ends at its semicolon; without one the longest name that may do without it counts,
  except in an attribute value where the name seems to go on.
-/
import Std.Data.HashMap
import TaintClient.Markup.ReferenceTable
import TaintClient.Text.CodeTable

namespace TaintClient.Markup

/-- Reads code points in hexadecimal digits, separated by commas. -/
def readCodePoints (s : List Char) : List Char :=
  let (now, done) := s.foldr (fun c (acc : List Char × List (List Char)) =>
    if c = ',' then ([], acc.1 :: acc.2) else (c :: acc.1, acc.2)) ([], [])
  (now :: done).map (Char.ofNat ∘ Text.hexNumber)

/-- The named references by name. -/
@[irreducible] def namedTable : Std.HashMap String (List Char) :=
  (Text.words namedReferences.toList).foldl (fun m w =>
    m.insert (String.ofList (w.takeWhile (· != '='))) (readCodePoints ((w.dropWhile (· != '=')).drop 1))) ∅

/-- The names that may do without the semicolon. -/
@[irreducible] def bareNames : List (List Char) := Text.words bareReferences.toList

/-- The text of a named reference. The references for the signs of markup come first. -/
def named? (name : List Char) : Option (List Char) :=
  if name = "amp".toList then some ['&']
  else if name = "lt".toList then some ['<']
  else if name = "gt".toList then some ['>']
  else namedTable[String.ofList name]?

/-- The longest name that may do without a semicolon and begins the text. -/
def bareName? (s : List Char) : Option (List Char) :=
  bareNames.foldl (fun best name =>
    if name.isPrefixOf s ∧ (best.elim 0 List.length) < name.length then some name else best) none

/-- The characters of the reference numbers 0x80 to 0x9F, by their place in an old code page;
zero where that has none. -/
def codePage : List Nat :=
  [0x20AC, 0, 0x201A, 0x0192, 0x201E, 0x2026, 0x2020, 0x2021, 0x02C6, 0x2030, 0x0160, 0x2039,
    0x0152, 0, 0x017D, 0, 0, 0x2018, 0x2019, 0x201C, 0x201D, 0x2022, 0x2013, 0x2014, 0x02DC,
    0x2122, 0x0161, 0x203A, 0x0153, 0, 0x017E, 0x0178]

/-- The character of a reference number; U+FFFD where there is none. -/
def numbered (n : Nat) : Char :=
  if n = 0 ∨ 0x10FFFF < n ∨ (0xD800 ≤ n ∧ n ≤ 0xDFFF) then '\uFFFD'
  else if 0x80 ≤ n ∧ n ≤ 0x9F then
    match codePage[n - 0x80]? with
    | some m => if m = 0 then Char.ofNat n else Char.ofNat m
    | none => Char.ofNat n
  else Char.ofNat n

/-- A reference: its text, what follows it, and whether it ended in a semicolon. -/
structure Reference where
  text : List Char
  rest : List Char
  closed : Bool

/-- Takes a semicolon, if there is one. -/
def Reference.close (text : List Char) : List Char → Reference
  | ';' :: rest => ⟨text, rest, true⟩
  | rest => ⟨text, rest, false⟩

/-- Whether a character is a hexadecimal digit. -/
def isHexDigit (c : Char) : Bool := (Text.hexValue? c).isSome

/-- Reads a reference by number, behind the number sign. -/
def numeric? (s : List Char) : Option Reference :=
  match s with
  | 'x' :: t | 'X' :: t =>
    match t.takeWhile isHexDigit with
    | [] => none
    | ds => some (.close [numbered (Text.hexNumber ds)] (t.dropWhile isHexDigit))
  | s =>
    match s.takeWhile Char.isDigit with
    | [] => none
    | ds =>
      some (.close [numbered (ds.foldl (fun n c => n * 10 + (c.toNat - '0'.toNat)) 0)]
        (s.dropWhile Char.isDigit))

/-- The reference of a name without a semicolon at the start of a text. In an attribute value it
is none if the name seems to go on. -/
def bare? (inAttribute : Bool) (s : List Char) (name : Option (List Char)) : Option Reference :=
  match name with
  | none => none
  | some name =>
    let rest := s.drop name.length
    if inAttribute ∧ rest.head?.any (fun c => c = '=' || c.isAlphanum) then none
    else (named? name).map (⟨·, rest, false⟩)

/-- The reference of a name with the text `text`, closed by a semicolon at the start of `rest`. -/
def closed? (text : Option (List Char)) (rest : List Char) : Option Reference :=
  match text, rest with
  | some text, ';' :: rest => some ⟨text, rest, true⟩
  | _, _ => none

/-- Reads a reference behind the ampersand. -/
def reference? (inAttribute : Bool) (s : List Char) : Option Reference :=
  match s with
  | '#' :: t => numeric? t
  | s =>
    let name := s.takeWhile Char.isAlphanum
    (closed? (named? name) (s.dropWhile Char.isAlphanum)).or
      (bare? inAttribute s (bareName? name))

theorem length_close (text s : List Char) : (Reference.close text s).rest.length ≤ s.length := by
  unfold Reference.close
  split <;> simp

theorem length_dropWhile (p : Char → Bool) (s : List Char) :
    (s.dropWhile p).length ≤ s.length := by
  induction s with
  | nil => simp
  | cons c cs ih =>
    rw [List.dropWhile_cons]
    split
    · exact Nat.le_succ_of_le ih
    · simp

theorem length_numeric {s : List Char} {r : Reference} (h : numeric? s = some r) :
    r.rest.length ≤ s.length := by
  unfold numeric? at h
  split at h
  · split at h
    · cases h
    · injection h with h
      subst h
      exact Nat.le_succ_of_le (Nat.le_trans (length_close _ _) (length_dropWhile _ _))
  · split at h
    · cases h
    · injection h with h
      subst h
      exact Nat.le_succ_of_le (Nat.le_trans (length_close _ _) (length_dropWhile _ _))
  · split at h
    · cases h
    · injection h with h
      subst h
      exact Nat.le_trans (length_close _ _) (length_dropWhile _ _)

theorem length_bare {b : Bool} {s : List Char} {name : Option (List Char)} {r : Reference}
    (h : bare? b s name = some r) : r.rest.length ≤ s.length := by
  unfold bare? at h
  split at h
  · cases h
  · simp only at h
    split at h
    · cases h
    · obtain ⟨t, _, rfl⟩ := Option.map_eq_some_iff.1 h
      simp

theorem length_closed {text : Option (List Char)} {s : List Char} {r : Reference}
    (h : closed? text s = some r) : r.rest.length ≤ s.length := by
  unfold closed? at h
  split at h
  · injection h with h
    subst h
    simp
  · cases h

theorem length_reference {b : Bool} {s : List Char} {r : Reference}
    (h : reference? b s = some r) : r.rest.length ≤ s.length := by
  unfold reference? at h
  split at h
  · exact Nat.le_succ_of_le (length_numeric h)
  · rcases Option.or_eq_some_iff.1 h with h | ⟨_, h⟩
    · exact Nat.le_trans (length_closed h) (length_dropWhile _ _)
    · exact length_bare h

/-- The text of an attribute value with its references replaced. -/
def attributeText (s : List Char) : List Char :=
  match s with
  | [] => []
  | c :: cs =>
    if c = '&' then
      match _h : reference? true cs with
      | none => c :: attributeText cs
      | some r => r.text ++ attributeText r.rest
    else c :: attributeText cs
termination_by s.length
decreasing_by
  · simp
  · exact Nat.lt_succ_of_le (length_reference _h)
  · simp

end TaintClient.Markup

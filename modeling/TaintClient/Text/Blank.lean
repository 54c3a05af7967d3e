/-
  White space and lines of a text: which characters are blank, cutting blanks off the end,
  and splitting at line feeds. Everything is on character lists.
-/

namespace TaintClient.Text

/-- The characters with the Unicode property White_Space. -/
def isBlank (c : Char) : Bool :=
  let n := c.toNat
  (9 ≤ n && n ≤ 13) || n = 0x20 || n = 0x85 || n = 0xA0 || n = 0x1680
    || (0x2000 ≤ n && n ≤ 0x200A) || n = 0x2028 || n = 0x2029 || n = 0x202F || n = 0x205F
    || n = 0x3000

/-- The text without the longest suffix that satisfies `p`. -/
def dropEnd (p : Char → Bool) : List Char → List Char
  | [] => []
  | c :: cs =>
    match dropEnd p cs with
    | [] => if p c then [] else [c]
    | d :: ds => c :: d :: ds

/-- The text without its trailing blanks. -/
def trimEnd (s : List Char) : List Char := dropEnd isBlank s

/-- One carriage return in front of a line feed belongs to the line break. -/
def dropReturn : List Char → List Char
  | [] => []
  | ['\r'] => []
  | c :: cs => c :: dropReturn cs

/-- The text without its leading blanks. -/
def trimStart (s : List Char) : List Char := s.dropWhile isBlank

/-- The text without blanks at its ends. -/
def trim (s : List Char) : List Char := trimEnd (trimStart s)

/-- The pieces between the places of a character; `n` places give `n + 1` pieces. -/
def split (sep : Char) : List Char → List (List Char)
  | [] => [[]]
  | c :: cs =>
    if c = sep then [] :: split sep cs
    else
      match split sep cs with
      | [] => [[c]]
      | p :: ps => (c :: p) :: ps

/-- The pieces between line feeds. -/
def pieces (s : List Char) : List (List Char) := split '\n' s

/-- The lines of a text. A line ends at a line feed, which with one carriage return before it is
not part of the line; a last piece that is empty is no line. -/
def lines (s : List Char) : List (List Char) :=
  let ps := pieces s
  let closed := ps.dropLast.map dropReturn
  match ps.getLast? with
  | none => closed
  | some [] => closed
  | some last => closed ++ [last]

/-- Line ends written as one line feed: a carriage return, and a carriage return with the line
feed after it, each become a line feed. -/
def unifyLineEnds : List Char → List Char
  | [] => []
  | '\r' :: '\n' :: cs => '\n' :: unifyLineEnds cs
  | '\r' :: cs => '\n' :: unifyLineEnds cs
  | c :: cs => c :: unifyLineEnds cs

theorem dropEnd_append_of_all {p : Char → Bool} (s t : List Char) (h : ∀ c ∈ t, p c) :
    dropEnd p (s ++ t) = dropEnd p s := by
  induction s with
  | nil =>
    induction t with
    | nil => rfl
    | cons c cs ih =>
      have hc : p c = true := h c (by simp)
      have := ih (fun d hd => h d (by simp [hd]))
      simp only [List.nil_append] at this ⊢
      simp [dropEnd, this, hc]
  | cons c cs ih => simp only [List.cons_append, dropEnd, ih]

theorem split_ne_nil (sep : Char) (s : List Char) : split sep s ≠ [] := by
  cases s with
  | nil => simp [split]
  | cons c cs =>
    simp only [split]
    split
    · simp
    · split <;> simp

theorem pieces_ne_nil (s : List Char) : pieces s ≠ [] := split_ne_nil _ s

end TaintClient.Text

/-
  The grammar of JSON, for values that are stepped over: what a scalar looks like, and a bracket
  with its entries. Any value counts that is well-formed, whatever the size of its numbers, with or
  without partners of its surrogates, and however deep its brackets are.
-/
import TaintClient.Proofs.Json.Integer

namespace TaintClient.Json

/-! ## Blanks and scalars -/

/-- Whether a text has insignificant characters only. -/
def Blank (s : List Char) : Prop := ∀ x ∈ s, Cursor.isSpace x = true

theorem Blank.append {s t : List Char} (hs : Blank s) (ht : Blank t) : Blank (s ++ t) :=
  fun x hx => (List.mem_append.mp hx).elim (hs x) (ht x)

/-- The ways to write a character of a text that is not wanted; surrogates may stand alone. -/
inductive LooseChar : List Char → Prop
  | plain {c : Char} (hc : 0x20 ≤ c.toNat) (hq : c ≠ '"') (hb : c ≠ '\\') : LooseChar [c]
  | short {x c : Char} (hx : simpleEscape x = some c) : LooseChar ['\\', x]
  | number {i j k l : Char} {n : Nat} (hn : hexFour [i, j, k, l] = some n) :
    LooseChar ['\\', 'u', i, j, k, l]

/-- A text that is not wanted, between its marks. -/
inductive LooseText : List Char → Prop
  | nil : LooseText []
  | cons {v w : List Char} (hv : LooseChar v) (hw : LooseText w) : LooseText (v ++ w)

/-- One digit or more. -/
structure Digits (s : List Char) : Prop where
  all : ∀ x ∈ s, x.isDigit = true
  nonempty : s ≠ []

/-- The fraction of a number, or none. -/
inductive Fraction : List Char → Prop
  | none : Fraction []
  | some {ds : List Char} (hds : Digits ds) : Fraction ('.' :: ds)

/-- The sign of an exponent, or none. -/
def ExponentSign (s : List Char) : Prop := s = [] ∨ s = ['-'] ∨ s = ['+']

/-- The exponent of a number, or none. -/
inductive Exponent : List Char → Prop
  | none : Exponent []
  | some {e : Char} {sign ds : List Char} (he : e = 'e' ∨ e = 'E') (hsign : ExponentSign sign)
    (hds : Digits ds) : Exponent (e :: (sign ++ ds))

/-- A number without its sign. -/
inductive Magnitude : List Char → Prop
  | mk {whole fraction exponent : List Char} (hw : Numeral whole) (hf : Fraction fraction)
    (he : Exponent exponent) : Magnitude (whole ++ (fraction ++ exponent))

/-- A value that is not a bracket. -/
inductive Scalar : List Char → Prop
  | null : Scalar ['n', 'u', 'l', 'l']
  | true : Scalar ['t', 'r', 'u', 'e']
  | false : Scalar ['f', 'a', 'l', 's', 'e']
  | positive {v : List Char} (hv : Magnitude v) : Scalar v
  | negative {v : List Char} (hv : Magnitude v) : Scalar ('-' :: v)
  | text {w : List Char} (hw : LooseText w) : Scalar ('"' :: (w ++ ['"']))

/-! ## Brackets -/

/-- The sign that opens a bracket. -/
def Bracket.opening : Bracket → Char
  | .list => '['
  | .object => '\x7b'

/-- What stands before a value in a bracket: blanks, and in an object a name and a colon. -/
inductive Intro : Bracket → List Char → Prop
  | list {u : List Char} (hu : Blank u) : Intro .list u
  | object {u n v w : List Char} (hu : Blank u) (hn : LooseText n) (hv : Blank v) (hw : Blank w) :
    Intro .object (u ++ '"' :: (n ++ '"' :: (v ++ ':' :: w)))

/-- The parts of a text that the grammar is about: a value; the entries of a bracket up to its
closing sign, there being one at least; and what follows the value of an entry, up to there. -/
inductive Part
  | value
  | entries (b : Bracket)
  | behind (b : Bracket)

/-- The grammar, part by part. -/
inductive WellFormed : Part → List Char → Prop
  | scalar {v : List Char} (hv : Scalar v) : WellFormed .value v
  | empty (b : Bracket) {u : List Char} (hu : Blank u) :
    WellFormed .value (b.opening :: (u ++ [b.closing]))
  | bracket {b : Bracket} {e : List Char} (he : WellFormed (.entries b) e) :
    WellFormed .value (b.opening :: e)
  | entry {b : Bracket} {i v w : List Char} (hi : Intro b i) (hv : WellFormed .value v)
    (hw : WellFormed (.behind b) w) : WellFormed (.entries b) (i ++ (v ++ w))
  | close {b : Bracket} {u : List Char} (hu : Blank u) :
    WellFormed (.behind b) (u ++ [b.closing])
  | more {b : Bracket} {u e : List Char} (hu : Blank u) (he : WellFormed (.entries b) e) :
    WellFormed (.behind b) (u ++ ',' :: e)

/-- A value as it is written. -/
abbrev Value (v : List Char) : Prop := WellFormed .value v

/-! ## How the parts begin -/

/-- Whether a text begins with a character that satisfies `p`. -/
def Begins (p : Char → Prop) (s : List Char) : Prop := ∃ x t, s = x :: t ∧ p x

theorem Begins.append {p : Char → Prop} {s : List Char} (h : Begins p s) (t : List Char) :
    Begins p (s ++ t) := by
  obtain ⟨x, u, rfl, hx⟩ := h
  exact ⟨x, u ++ t, rfl, hx⟩

theorem Begins.mono {p q : Char → Prop} {s : List Char} (h : Begins p s) (hpq : ∀ x, p x → q x) :
    Begins q s := by
  obtain ⟨x, t, rfl, hx⟩ := h
  exact ⟨x, t, rfl, hpq x hx⟩

theorem Digits.begins {s : List Char} (h : Digits s) : Begins (·.isDigit = true) s := by
  cases s with
  | nil => exact absurd rfl h.nonempty
  | cons x s => exact ⟨x, s, rfl, h.all x List.mem_cons_self⟩

theorem Numeral.begins {s : List Char} (h : Numeral s) : Begins (·.isDigit = true) s := by
  cases s with
  | nil => exact absurd rfl h.nonempty
  | cons x s => exact ⟨x, s, rfl, h.digits x List.mem_cons_self⟩

theorem Magnitude.begins {s : List Char} (h : Magnitude s) : Begins (·.isDigit = true) s := by
  obtain ⟨hw, _, _⟩ := h
  exact hw.begins.append _

/-- No value begins with a blank or with a sign that closes a bracket. -/
theorem Value.begins {v : List Char} (h : Value v) :
    Begins (fun x => Cursor.isSpace x = false ∧ x ≠ ']') v := by
  have hdigit : ∀ x : Char, x.isDigit = true → Cursor.isSpace x = false ∧ x ≠ ']' := by
    intro x hx
    refine ⟨isSpace_of_isDigit hx, ?_⟩
    rintro rfl
    cases hx
  cases h with
  | scalar hv =>
    cases hv with
    | null => exact ⟨_, _, rfl, by decide⟩
    | true => exact ⟨_, _, rfl, by decide⟩
    | false => exact ⟨_, _, rfl, by decide⟩
    | positive hv => exact hv.begins.mono hdigit
    | negative hv => exact ⟨_, _, rfl, by decide⟩
    | text hw => exact ⟨_, _, rfl, by decide⟩
  | empty b hu => cases b <;> exact ⟨_, _, rfl, by decide⟩
  | @bracket b e he => cases b <;> exact ⟨_, _, rfl, by decide⟩

/-- Blanks, and a sign behind them, end a number. -/
theorem endsNumber_blank {u : List Char} (hu : Blank u) {x : Char} (hx : x.isDigit = false)
    (hdot : x ≠ '.') (he : x ≠ 'e') (hE : x ≠ 'E') (t : List Char) : EndsNumber (u ++ x :: t) := by
  intro y hy
  cases u with
  | nil =>
    obtain rfl := Option.some_inj.mp hy
    exact ⟨hx, hdot, he, hE⟩
  | cons z u =>
    obtain rfl := Option.some_inj.mp hy
    have hz := hu z List.mem_cons_self
    simp only [Cursor.isSpace, Bool.or_eq_true, decide_eq_true_eq] at hz
    obtain ((rfl | rfl) | rfl) | rfl := hz <;> decide

theorem WellFormed.endsNumber {b : Bracket} {w : List Char} (h : WellFormed (.behind b) w)
    (t : List Char) : EndsNumber (w ++ t) := by
  cases h with
  | close hu =>
    rw [List.append_assoc, List.singleton_append]
    cases b <;> exact endsNumber_blank hu (by decide) (by decide) (by decide) (by decide) t
  | more hu he =>
    rw [List.append_assoc, List.cons_append]
    exact endsNumber_blank hu (by decide) (by decide) (by decide) (by decide) _

end TaintClient.Json

/-
  The wording of faults is of one line, whatever was read. A fault tells a value that it found, but
  a text in quotation marks only (`Text.Quoted.oneLine_quote`); what it tells as it is are names
  and kinds that the readers know of themselves (`Cause.verbatim`). No reader makes a fault that
  tells anything else as it is (`IsTame`): one lemma for each of them.
-/
import TaintClient.Json.Reader
import TaintClient.Proofs.Except
import TaintClient.Proofs.Text.OneLine

namespace TaintClient.Json

open Text (OneLine oneLine_append oneLine_cons oneLine_nil Printable printable_append printable_cons
  printable_nil printable_decimal)

variable {c : Cursor}

/-! ## Wordings -/

/-- The texts that a cause tells as they are. -/
def Cause.verbatim : Cause → List (List Char)
  | .wrongType _ expected | .outOfRange _ expected | .wrongLength _ expected => [expected.toList]
  | .missingField name | .duplicateField name => [name.toList]
  | .unknownVariant name known => name :: known.map String.toList
  | _ => []

/-- Whether a fault tells only texts of one line as they are. -/
def IsTame (f : Fault) : Prop := ∀ s ∈ f.cause.verbatim, OneLine s

theorem printable_replicate {x : Char} (hx : 32 ≤ x.toNat ∧ x.toNat ≤ 126) (n : Nat) :
    Printable (List.replicate n x) := fun _ hc => List.eq_of_mem_replicate hc ▸ hx

theorem printable_floatText (x : Float) : Printable (floatText x) := by
  have hds := printable_decimal (Decimal.shortest x).digits
  have htake (n : Nat) : Printable ((Nat.toDigits 10 (Decimal.shortest x).digits).take n) :=
    fun c hc => hds c (List.mem_of_mem_take hc)
  have hdrop (n : Nat) : Printable ((Nat.toDigits 10 (Decimal.shortest x).digits).drop n) :=
    fun c hc => hds c (List.mem_of_mem_drop hc)
  have hzeros (n : Nat) := printable_replicate (x := '0') (by decide) n
  unfold floatText
  dsimp only
  rw [printable_append]
  constructor
  · split <;> decide
  · split
    · decide
    · split
      · split
        · simp only [printable_append]
          exact ⟨⟨hds, hzeros _⟩, by decide⟩
        · simp only [printable_append, printable_cons]
          exact ⟨htake _, by decide, hdrop _⟩
      · split
        · simp only [List.cons_append, printable_append, printable_cons]
          exact ⟨by decide, by decide, hzeros _, hds⟩
        · simp only [printable_append, printable_cons]
          refine ⟨⟨htake _, ?_⟩, by decide, ?_, ?_⟩
          · split
            · exact printable_nil
            · exact printable_cons.mpr ⟨by decide, hdrop _⟩
          · split <;> decide
          · split
            · exact printable_cons.mpr ⟨by decide, printable_decimal _⟩
            · exact printable_decimal _

theorem printable_describe (n : Number) : Printable n.describe := by
  cases n with
  | natural n =>
    unfold Number.describe
    simp only [printable_append]
    exact ⟨⟨by decide, printable_decimal n⟩, by decide⟩
  | negative n =>
    unfold Number.describe
    simp only [printable_append]
    exact ⟨⟨by decide, printable_decimal _⟩, by decide⟩
  | float x =>
    unfold Number.describe
    simp only [printable_append]
    exact ⟨⟨by decide, printable_floatText x⟩, by decide⟩

/-- A value that was found is told on one line, a text in quotation marks. -/
theorem oneLine_describe (f : Found) : OneLine f.describe := by
  cases f with
  | null => decide
  | bool b => cases b <;> decide
  | number n => exact (printable_describe n).oneLine
  | text s => exact oneLine_append.mpr ⟨by decide, Text.Quoted.oneLine_quote s⟩
  | sequence => decide
  | map => decide

theorem oneLine_alternatives {known : List String} (h : ∀ s ∈ known, OneLine s.toList) :
    OneLine (alternatives known) := by
  unfold alternatives
  split
  · decide
  · simp only [List.forall_mem_cons] at h
    simp only [oneLine_append]
    exact ⟨⟨by decide, h.1⟩, by decide⟩
  · simp only [List.forall_mem_cons] at h
    simp only [oneLine_append]
    exact ⟨⟨⟨⟨by decide, h.1⟩, by decide⟩, h.2.1⟩, by decide⟩
  · refine oneLine_append.mpr ⟨by decide, OneLine.intercalate (by decide) ?_⟩
    refine List.forall_mem_map.mpr fun s hs => ?_
    exact oneLine_append.mpr ⟨oneLine_cons.mpr ⟨by decide, h s hs⟩, by decide⟩

/-- A cause that tells only texts of one line as they are is worded on one line. -/
theorem Cause.oneLine {cause : Cause} (h : ∀ s ∈ cause.verbatim, OneLine s) :
    OneLine cause.message := by
  cases cause with
  | wrongType found expected =>
    unfold Cause.message
    simp only [oneLine_append]
    exact ⟨⟨⟨by decide, oneLine_describe found⟩, by decide⟩, h _ List.mem_cons_self⟩
  | outOfRange n expected =>
    unfold Cause.message
    simp only [oneLine_append]
    exact ⟨⟨⟨by decide, (printable_describe _).oneLine⟩, by decide⟩, h _ List.mem_cons_self⟩
  | wrongLength n expected =>
    unfold Cause.message
    simp only [oneLine_append]
    exact ⟨⟨⟨by decide, (printable_decimal n).oneLine⟩, by decide⟩, h _ List.mem_cons_self⟩
  | missingField name =>
    unfold Cause.message
    simp only [oneLine_append]
    exact ⟨⟨by decide, h _ List.mem_cons_self⟩, by decide⟩
  | duplicateField name =>
    unfold Cause.message
    simp only [oneLine_append]
    exact ⟨⟨by decide, h _ List.mem_cons_self⟩, by decide⟩
  | unknownVariant name known =>
    obtain ⟨hname, hknown⟩ := List.forall_mem_cons.mp h
    unfold Cause.message
    simp only [oneLine_append]
    exact ⟨⟨⟨by decide, hname⟩, by decide⟩, oneLine_alternatives (List.forall_mem_map.mp hknown)⟩
  | _ => decide

/-- A fault that is tame is worded on one line; its place is told by two numbers. -/
theorem IsTame.oneLine {f : Fault} (h : IsTame f) : OneLine f.message := by
  simp only [Fault.message, oneLine_append]
  exact ⟨⟨⟨⟨Cause.oneLine h, by decide⟩, (printable_decimal _).oneLine⟩, by decide⟩,
    (printable_decimal _).oneLine⟩

/-! ## Texts and numbers -/

/-- A fault that tells nothing but its cause. -/
theorem isTame_of_nil {f : Fault} (h : f.cause.verbatim = []) : IsTame f := by
  rw [IsTame, h]
  exact List.forall_mem_nil _

/-- A computation that fails with such a fault. -/
theorem failsWith_plain {α : Type} {cause : Cause} {p : Place} (h : cause.verbatim = []) :
    FailsWith IsTame (.error ⟨cause, p⟩ : Except Fault α) := failsWith_error (isTame_of_nil h)

theorem tame_readHexFour (c : Cursor) : FailsWith IsTame (readHexFour c) := by
  unfold readHexFour
  split
  · exact failsWith_plain rfl
  · split
    · exact failsWith_plain rfl
    · exact failsWith_ok _

theorem tame_expectPartner (x : Char) (c : Cursor) : FailsWith IsTame (expectPartner x c) := by
  unfold expectPartner
  split
  · exact failsWith_plain rfl
  · split
    · exact failsWith_ok _
    · exact failsWith_plain rfl

theorem tame_readEscape (c : Cursor) : FailsWith IsTame (readEscape c) := by
  unfold readEscape
  split
  · exact failsWith_plain rfl
  · split
    · refine (tame_readHexFour _).bind fun first => ?_
      obtain ⟨n, d⟩ := first
      dsimp only
      split
      · exact failsWith_plain rfl
      · split
        · refine (tame_expectPartner _ _).bind fun d => (tame_expectPartner _ _).bind fun d => ?_
          refine (tame_readHexFour _).bind fun second => ?_
          obtain ⟨m, d⟩ := second
          dsimp only
          split
          · exact failsWith_ok _
          · exact failsWith_plain rfl
        · exact failsWith_ok _
    · split
      · exact failsWith_ok _
      · exact failsWith_plain rfl

theorem tame_readText (c : Cursor) : FailsWith IsTame (readText c) := by
  fun_induction readText c with
  | case1 => exact failsWith_plain rfl
  | case2 => exact failsWith_ok _
  | case3 c xs e he hx =>
    exact failsWith_error (tame_readEscape _ e he)
  | case4 c xs y e he hx _ ih => exact ih.bind fun _ => failsWith_ok _
  | case5 => exact failsWith_plain rfl
  | case6 c x xs hx hq hb hc ih => exact ih.bind fun _ => failsWith_ok _

theorem tame_skipEscape (c : Cursor) : FailsWith IsTame (skipEscape c) := by
  unfold skipEscape
  split
  · exact failsWith_plain rfl
  · split
    · exact (tame_readHexFour _).map
    · split
      · exact failsWith_ok _
      · exact failsWith_plain rfl

theorem tame_skipText (c : Cursor) : FailsWith IsTame (skipText c) := by
  fun_induction skipText c with
  | case1 => exact failsWith_plain rfl
  | case2 => exact failsWith_ok _
  | case3 c xs e he hx => exact failsWith_error (tame_skipEscape _ e he)
  | case4 c xs e he hx _ ih => exact ih
  | case5 => exact failsWith_plain rfl
  | case6 c x xs hx _ _ _ ih => exact ih

theorem tame_floatOfParts (positive : Bool) (significand : Nat) (e : Int) (c : Cursor) :
    FailsWith IsTame (floatOfParts positive significand e c) := by
  unfold floatOfParts
  split
  · exact failsWith_plain rfl
  · exact failsWith_ok _

theorem tame_readExponent (positive : Bool) (significand : Nat) (start : Int) (c : Cursor) :
    FailsWith IsTame (readExponent positive significand start c) := by
  unfold readExponent
  dsimp only
  split
  · exact failsWith_plain rfl
  · split
    · split
      · exact tame_floatOfParts _ _ _ _
      · split
        · exact failsWith_plain rfl
        · exact failsWith_ok _
    · exact failsWith_plain rfl

theorem tame_readFraction (positive : Bool) (significand dropped : Nat) (c : Cursor) :
    FailsWith IsTame (readFraction positive significand dropped c) := by
  unfold readFraction
  dsimp only
  split
  · refine failsWith_plain ?_
    split <;> rfl
  · split
    · exact tame_readExponent _ _ _ _
    · exact tame_floatOfParts _ _ _ _

theorem tame_readNumber (positive : Bool) (c : Cursor) :
    FailsWith IsTame (readNumber positive c) := by
  unfold readNumber
  split
  · exact failsWith_plain rfl
  · split
    · exact failsWith_plain rfl
    · split
      · exact failsWith_plain rfl
      · dsimp only
        split
        · exact tame_readFraction _ _ _ _
        · split
          · exact tame_readExponent _ _ _ _
          · split
            · exact tame_floatOfParts _ _ _ _
            · split
              · exact failsWith_ok _
              · split <;> exact failsWith_ok _

theorem tame_skipExponent (c : Cursor) : FailsWith IsTame (skipExponent c) := by
  unfold skipExponent
  dsimp only
  split
  · exact failsWith_plain rfl
  · exact failsWith_ok _

theorem tame_skipNumber (c : Cursor) : FailsWith IsTame (skipNumber c) := by
  unfold skipNumber
  split
  · exact failsWith_plain rfl
  · split
    · exact failsWith_plain rfl
    · split
      · exact failsWith_plain rfl
      · dsimp only
        split
        · split
          · exact failsWith_plain rfl
          · split
            · exact tame_skipExponent _
            · exact failsWith_ok _
        · split
          · exact tame_skipExponent _
          · exact failsWith_ok _

/-! ## Values of a kind -/

theorem tame_expectWord (w : List Char) (c : Cursor) : FailsWith IsTame (expectWord w c) := by
  induction w generalizing c with
  | nil => exact failsWith_ok _
  | cons x w ih =>
    unfold expectWord
    split
    · exact failsWith_plain rfl
    · split
      · exact ih _
      · exact failsWith_plain rfl

/-- The fault of a value of another kind tells the kind that was expected, and the value, or it is
that of a reader that could not read the value. -/
theorem isTame_wrongType {expected : String} (h : OneLine expected.toList) (c : Cursor) :
    IsTame (wrongType expected c) := by
  have hreport (found : Found) (p : Place) : IsTame ⟨.wrongType found expected, p⟩ :=
    List.forall_mem_singleton.mpr h
  unfold wrongType
  dsimp only
  split
  · exact isTame_of_nil rfl
  · split_ifs
    · split
      · exact tame_expectWord _ _ _ ‹_›
      · exact hreport _ _
    · split
      · exact tame_expectWord _ _ _ ‹_›
      · exact hreport _ _
    · split
      · exact tame_expectWord _ _ _ ‹_›
      · exact hreport _ _
    · split
      · exact tame_readNumber _ _ _ ‹_›
      · exact hreport _ _
    · split
      · exact tame_readNumber _ _ _ ‹_›
      · exact hreport _ _
    · split
      · exact tame_readText _ _ ‹_›
      · exact hreport _ _
    · exact hreport _ _
    · exact hreport _ _
    · exact isTame_of_nil rfl

theorem tame_readString {expected : String} (h : OneLine expected.toList) (c : Cursor) :
    FailsWith IsTame (readString expected c) := by
  unfold readString
  dsimp only
  split
  · exact failsWith_plain rfl
  · split
    · exact tame_readText _
    · exact failsWith_error (isTame_wrongType h _)

theorem tame_readInteger (c : Cursor) : FailsWith IsTame (readInteger c) := by
  have hexpected : OneLine "i64".toList := by decide
  unfold readInteger
  extract_lets expected check d
  have hcheck (positive : Bool) (d : Cursor) :
      FailsWith IsTame (check (readNumber positive d)) := by
    dsimp only [check]
    split
    · exact failsWith_error (tame_readNumber _ _ _ ‹_›)
    · split
      · exact failsWith_ok _
      · exact failsWith_error (List.forall_mem_singleton.mpr hexpected)
    · exact failsWith_ok _
    · exact failsWith_error (List.forall_mem_singleton.mpr hexpected)
  split
  · exact failsWith_plain rfl
  · split
    · exact hcheck _ _
    · split
      · exact hcheck _ _
      · exact failsWith_error (isTame_wrongType hexpected _)

theorem tame_readOptional {α : Type} {read : Cursor → Except Fault (α × Cursor)}
    (h : ∀ c, FailsWith IsTame (read c)) (c : Cursor) :
    FailsWith IsTame (readOptional read c) := by
  unfold readOptional
  dsimp only
  split
  · exact (tame_expectWord _ _).bind fun _ => failsWith_ok _
  · exact (h _).bind fun _ => failsWith_ok _

theorem tame_expectColon (c : Cursor) : FailsWith IsTame (expectColon c) := by
  unfold expectColon
  dsimp only
  split
  · exact failsWith_plain rfl
  · split
    · exact failsWith_ok _
    · exact failsWith_plain rfl

theorem tame_expectEnd (c : Cursor) : FailsWith IsTame (expectEnd c) := by
  unfold expectEnd
  dsimp only
  split
  · exact failsWith_ok _
  · exact failsWith_plain rfl

/-! ## Stepping over a value -/

theorem tame_skipScalar (c : Cursor) : FailsWith IsTame (skipScalar c) := by
  unfold skipScalar
  split
  · exact failsWith_plain rfl
  · split_ifs
    · exact (tame_expectWord _ _).map
    · exact (tame_expectWord _ _).map
    · exact (tame_expectWord _ _).map
    · exact (tame_skipNumber _).map
    · exact (tame_skipNumber _).map
    · exact (tame_skipText _).map
    · exact failsWith_ok _
    · exact failsWith_ok _
    · exact failsWith_plain rfl

theorem tame_skipIntro (b : Bracket) (c : Cursor) : FailsWith IsTame (skipIntro b c) := by
  cases b with
  | list => exact failsWith_ok _
  | object =>
    unfold skipIntro skipName
    dsimp only
    split
    · exact failsWith_plain rfl
    · split
      · exact (tame_skipText _).bind fun _ => tame_expectColon _
      · exact failsWith_plain rfl

theorem tame_follow (b : Bracket) (first : Bool) (c : Cursor) :
    FailsWith IsTame (follow b first c) := by
  unfold follow
  dsimp only
  split
  · exact failsWith_plain (by cases b <;> rfl)
  · split_ifs
    · exact failsWith_ok _
    · exact failsWith_ok _
    · exact failsWith_ok _
    · exact failsWith_plain (by cases b <;> rfl)

theorem tame_closeBrackets (bs : List Bracket) (first : Bool) (c : Cursor) :
    FailsWith IsTame (closeBrackets bs first c) := by
  induction bs generalizing first c with
  | nil => exact failsWith_ok _
  | cons b bs ih =>
    unfold closeBrackets
    split
    · exact failsWith_error (tame_follow _ _ _ _ ‹_›)
    · exact (tame_skipIntro _ _).bind fun _ => failsWith_ok _
    · exact ih _ _

theorem tame_skipOpen (bs : List Bracket) (c : Cursor) : FailsWith IsTame (skipOpen bs c) := by
  fun_induction skipOpen bs c with
  | case1 bs c e he => exact failsWith_error (tame_skipScalar _ e he)
  | case2 bs c o e he f hf => exact failsWith_error (tame_closeBrackets _ _ _ f hf)
  | case3 => exact failsWith_ok _
  | case4 bs c o e he bs' f hc ih => exact ih

theorem tame_skipValue (c : Cursor) : FailsWith IsTame (skipValue c) := tame_skipOpen [] c

end TaintClient.Json

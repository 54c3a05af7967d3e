/-
  What stands on a command line. `Written` relates arguments to the options that they give, with
  their values: a value stands behind an equals sign or is the next argument, and two hyphens may
  close the line. Which options arguments give is said by the arguments alone (`Written.unique`).
  Arguments are read exactly if they are written so and what they give can be set, one option after
  the other (`Draft.readArguments_eq_ok_iff`).
-/
import TaintClient.CommandLine.Reader
import TaintClient.Proofs.Except
import TaintClient.Proofs.Text.Octets
import TaintClient.Proofs.Text.Parts

namespace TaintClient.CommandLine

open Text (Loose)

/-- An option as an argument. -/
def Key.spelled (k : Key) : Loose := some '-' :: some '-' :: Loose.ofText k.word

/-- Whether an argument is no option: it does not begin with a hyphen, or is nothing else. -/
def IsValue (a : Loose) : Prop := a.head? ≠ some (some '-') ∨ a = [some '-']

/-- The options that arguments give, with their values. An option without a value has an empty
one. -/
inductive Written : List Loose → List (Key × Loose) → Prop
  | nil : Written [] []
  | closed : Written [Loose.ofText "--"] []
  | attached {key args given} (h : key.takesValue = true) (value : Loose)
      (hargs : Written args given) :
      Written ((key.spelled ++ some '=' :: value) :: args) ((key, value) :: given)
  | apart {key value args given} (h : key.takesValue = true) (hvalue : IsValue value)
      (hargs : Written args given) :
      Written (key.spelled :: value :: args) ((key, value) :: given)
  | flag {key args given} (h : key.takesValue = false) (hargs : Written args given) :
      Written (key.spelled :: args) ((key, []) :: given)

/-! ## Words -/

namespace Key

variable {key : Key}

theorem equals_not_mem_word (key : Key) : some '=' ∉ Loose.ofText key.word := by
  cases key <;> decide

theorem word_ne_empty (key : Key) : key.word ≠ "" := by
  cases key <;> decide

theorem spelled_ne_closed (key : Key) : key.spelled ≠ Loose.ofText "--" := by
  cases key <;> decide

theorem ofWord?_eq_some_iff {s : String} : ofWord? s = some key ↔ s = key.word := by
  constructor
  · intro h
    have hfound := List.find?_some (p := fun k : Key => decide (k.word = s)) h
    exact (of_decide_eq_true hfound).symm
  · rintro rfl
    exact ofWord_word key

theorem word_injective : Function.Injective word := by
  intro a b h
  have := ofWord_word a
  rw [h, ofWord_word] at this
  exact (Option.some.inj this).symm

/-- The word of an option is sound. -/
theorem ofWord?_text? {word : Loose} (h : ofWord? (word.text?.getD "") = some key) :
    word = Loose.ofText key.word := by
  have hword := ofWord?_eq_some_iff.mp h
  cases htext : word.text? with
  | none =>
    rw [htext, Option.getD_none] at hword
    exact absurd hword.symm (word_ne_empty key)
  | some s =>
    rw [htext, Option.getD_some] at hword
    rw [← hword]
    exact Loose.text?_eq_some_iff.mp htext

end Key

/-- A word, with a value behind an equals sign or without one. -/
theorem exists_word (rest : Loose) :
    some '=' ∉ rest ∨ ∃ word value, some '=' ∉ word ∧ rest = word ++ some '=' :: value := by
  by_cases h : some '=' ∈ rest
  · obtain ⟨word, value, hrest, hword⟩ := List.eq_append_cons_of_mem h
    exact .inr ⟨word, value, hword, hrest⟩
  · exact .inl h

/-- A word ends at the first equals sign. -/
theorem append_equals_inj {v w s t : Loose} (hv : some '=' ∉ v) (hw : some '=' ∉ w)
    (h : v ++ some '=' :: s = w ++ some '=' :: t) : v = w ∧ s = t := by
  have hvw : v = w := by rw [← Text.takeWhile_append_sign hv s, h, Text.takeWhile_append_sign hw t]
  subst hvw
  exact ⟨rfl, (List.cons.inj (List.append_cancel_left h)).2⟩

theorem Key.equals_not_mem_spelled (key : Key) : some '=' ∉ key.spelled := by
  cases key <;> decide

theorem Key.spelled_injective : Function.Injective spelled := by
  intro a b h
  have hword := (List.cons.inj (List.cons.inj h).2).2
  exact word_injective (Loose.ofText_injective hword)

theorem attached_ne_spelled (key other : Key) (value : Loose) :
    key.spelled ++ some '=' :: value ≠ other.spelled := by
  intro h
  exact other.equals_not_mem_spelled (h ▸ List.mem_append_right _ List.mem_cons_self)

theorem attached_ne_closed (key : Key) (value : Loose) :
    key.spelled ++ some '=' :: value ≠ Loose.ofText "--" := by
  intro h
  have hmem : some '=' ∉ Loose.ofText "--" := by decide
  exact hmem (h ▸ List.mem_append_right _ List.mem_cons_self)

theorem attached_inj {key other : Key} {value v : Loose}
    (h : key.spelled ++ some '=' :: value = other.spelled ++ some '=' :: v) :
    key = other ∧ value = v := by
  obtain ⟨hspelled, hvalue⟩ :=
    append_equals_inj key.equals_not_mem_spelled other.equals_not_mem_spelled h
  exact ⟨Key.spelled_injective hspelled, hvalue⟩

/-! ## What arguments give -/

/-- Two hyphens, a word, and a value behind an equals sign, are read in one way. -/
theorem Written.unique {args : List Loose} {given other : List (Key × Loose)}
    (h : Written args given) (h' : Written args other) : other = given := by
  induction h generalizing other with
  | nil =>
    generalize hargs : ([] : List Loose) = args at h'
    cases h' with
    | nil => rfl
    | closed | attached | apart | flag => cases hargs
  | closed =>
    generalize hargs : [Loose.ofText "--"] = args at h'
    cases h' with
    | nil => rfl
    | closed => rfl
    | attached hkey value =>
      exact absurd (List.cons.inj hargs).1 (attached_ne_closed _ _).symm
    | apart | flag => exact absurd (List.cons.inj hargs).1 (Key.spelled_ne_closed _).symm
  | @attached key args given hkey value hrest ih =>
    generalize hargs : (key.spelled ++ some '=' :: value) :: args = args' at h'
    cases h' with
    | nil => cases hargs
    | closed => exact absurd (List.cons.inj hargs).1 (attached_ne_closed _ _)
    | attached hkey' value' hrest' =>
      obtain ⟨hfirst, rfl⟩ := List.cons.inj hargs
      obtain ⟨rfl, rfl⟩ := attached_inj hfirst
      rw [ih hrest']
    | apart | flag => exact absurd (List.cons.inj hargs).1 (attached_ne_spelled _ _ _)
  | @apart key value args given hkey hvalue hrest ih =>
    generalize hargs : key.spelled :: value :: args = args' at h'
    cases h' with
    | nil => cases hargs
    | closed => exact absurd (List.cons.inj hargs).1 (Key.spelled_ne_closed _)
    | attached => exact absurd (List.cons.inj hargs).1.symm (attached_ne_spelled _ _ _)
    | apart hkey' hvalue' hrest' =>
      obtain ⟨hfirst, hmore⟩ := List.cons.inj hargs
      obtain ⟨rfl, rfl⟩ := List.cons.inj hmore
      obtain rfl := Key.spelled_injective hfirst
      rw [ih hrest']
    | flag hkey' =>
      obtain rfl := Key.spelled_injective (List.cons.inj hargs).1
      rw [hkey] at hkey'
      cases hkey'
  | @flag key args given hkey hrest ih =>
    generalize hargs : key.spelled :: args = args' at h'
    cases h' with
    | nil => cases hargs
    | closed => exact absurd (List.cons.inj hargs).1 (Key.spelled_ne_closed _)
    | attached => exact absurd (List.cons.inj hargs).1.symm (attached_ne_spelled _ _ _)
    | apart hkey' =>
      obtain rfl := Key.spelled_injective (List.cons.inj hargs).1
      rw [hkey] at hkey'
      cases hkey'
    | flag hkey' hrest' =>
      obtain ⟨hfirst, rfl⟩ := List.cons.inj hargs
      obtain rfl := Key.spelled_injective hfirst
      rw [ih hrest']

/-- An option without a value is given with an empty one. -/
theorem Written.value_of_flag {args : List Loose} {given : List (Key × Loose)} {key : Key}
    {value : Loose} (h : Written args given) (hg : (key, value) ∈ given)
    (hkey : key.takesValue = false) : value = [] := by
  induction h with
  | nil => cases hg
  | closed => cases hg
  | attached h _ _ ih | apart h _ _ ih =>
    rcases List.mem_cons.mp hg with heq | hg
    · cases heq
      rw [hkey] at h
      cases h
    · exact ih hg
  | flag _ _ ih =>
    rcases List.mem_cons.mp hg with heq | hg
    · cases heq
      rfl
    · exact ih hg

namespace Draft

variable {d d' : Draft} {key : Key} {value : Loose}

/-! ## One argument -/

theorem readArgument_of_word {word : Loose} (h : some '=' ∉ word) :
    d.readArgument (some '-' :: some '-' :: word) = d.readWord word none := by
  rw [readArgument]
  rw [Text.takeWhile_of_not_mem h, List.drop_length]

theorem readArgument_of_value {word : Loose} (h : some '=' ∉ word) (value : Loose) :
    d.readArgument (some '-' :: some '-' :: (word ++ some '=' :: value)) =
      d.readWord word (some value) := by
  rw [readArgument]
  rw [Text.takeWhile_append_sign h, List.drop_left]

theorem readWord_attached (h : key.takesValue = true) (value : Loose) :
    d.readWord (Loose.ofText key.word) (some value) =
      (d.settle.bind (·.set key value)).mapError .fault := by
  unfold readWord
  dsimp only
  rw [Loose.text_ofText, Option.getD_some, Key.ofWord_word]
  dsimp only
  rw [if_pos h]

theorem readWord_apart (h : key.takesValue = true) :
    d.readWord (Loose.ofText key.word) none =
      (d.settle.map ({ · with pending := some (key, none) })).mapError .fault := by
  unfold readWord
  dsimp only
  rw [Loose.text_ofText, Option.getD_some, Key.ofWord_word]
  dsimp only
  rw [if_pos h]

theorem readWord_flag (h : key.takesValue = false) :
    d.readWord (Loose.ofText key.word) none = (d.settle.bind (·.set key [])).mapError .fault := by
  unfold readWord
  dsimp only
  rw [Loose.text_ofText, Option.getD_some, Key.ofWord_word]
  dsimp only
  rw [if_neg (by simp [h])]

/-- What reading an argument comes to. -/
inductive Reads (d : Draft) : Loose → Draft → Prop
  | attached {key d₁ d'} (h : key.takesValue = true) (value : Loose) (hsettle : d.settle = .ok d₁)
      (hset : d₁.set key value = .ok d') : Reads d (key.spelled ++ some '=' :: value) d'
  | named {key d₁} (h : key.takesValue = true) (hsettle : d.settle = .ok d₁) :
      Reads d key.spelled { d₁ with pending := some (key, none) }
  | flag {key d₁ d'} (h : key.takesValue = false) (hsettle : d.settle = .ok d₁)
      (hset : d₁.set key [] = .ok d') : Reads d key.spelled d'
  | value {key a} (hpending : d.pending = some (key, none)) (ha : IsValue a) :
      Reads d a { d with pending := some (key, some a) }

theorem reads_of_readWord_none {word : Loose} (h : d.readWord word none = .ok d') :
    Reads d (some '-' :: some '-' :: word) d' := by
  cases hkey : Key.ofWord? (word.text?.getD "") with
  | none =>
    unfold readWord at h
    dsimp only at h
    rw [hkey] at h
    dsimp only at h
    split at h
    · cases h
    · split at h <;> cases h
  | some key =>
    obtain rfl := Key.ofWord?_text? hkey
    cases hvalue : key.takesValue with
    | true =>
      rw [readWord_apart hvalue, mapError_eq_ok] at h
      cases hsettle : d.settle with
      | error f =>
        rw [hsettle] at h
        cases h
      | ok d₁ =>
        rw [hsettle] at h
        cases h
        exact .named hvalue hsettle
    | false =>
      rw [readWord_flag hvalue, mapError_eq_ok] at h
      obtain ⟨d₁, hsettle, hset⟩ := bind_eq_ok.mp h
      exact .flag hvalue hsettle hset

theorem reads_of_readWord_some {word : Loose} (h : d.readWord word (some value) = .ok d') :
    Reads d (some '-' :: some '-' :: (word ++ some '=' :: value)) d' := by
  cases hkey : Key.ofWord? (word.text?.getD "") with
  | none =>
    unfold readWord at h
    dsimp only at h
    rw [hkey] at h
    dsimp only at h
    split at h <;> cases h
  | some key =>
    obtain rfl := Key.ofWord?_text? hkey
    cases hvalue : key.takesValue with
    | true =>
      rw [readWord_attached hvalue, mapError_eq_ok] at h
      obtain ⟨d₁, hsettle, hset⟩ := bind_eq_ok.mp h
      exact .attached hvalue value hsettle hset
    | false =>
      unfold readWord at h
      dsimp only at h
      rw [hkey] at h
      dsimp only at h
      rw [hvalue] at h
      cases h

theorem reads_of_readValue (h : d.readValue value = .ok d') (hvalue : IsValue value) :
    Reads d value d' := by
  unfold readValue at h
  split at h
  · rename_i hpending
    cases h
    exact .value hpending hvalue
  · cases h

/-- An argument that is read is an option, with a value or without, or the value of the option
before it. -/
theorem reads_of_readArgument {a : Loose} (h : d.readArgument a = .ok d') : Reads d a d' := by
  have hread := h
  unfold readArgument at h
  split at h
  · rename_i rest
    obtain hrest | ⟨word, value, hword, rfl⟩ := exists_word rest
    · rw [readArgument_of_word hrest] at hread
      exact reads_of_readWord_none hread
    · rw [readArgument_of_value hword] at hread
      exact reads_of_readWord_some hread
  · cases h
  · rename_i hword hletters
    refine reads_of_readValue h ?_
    cases a with
    | nil => exact .inl nofun
    | cons x rest =>
      by_cases hx : x = some '-'
      · subst hx
        cases rest with
        | nil => exact .inr rfl
        | cons letter letters => exact absurd rfl (hletters letter letters)
      · exact .inl fun hhead => hx (Option.some.inj hhead)

/-! ## All arguments -/

/-- Sets options, one after the other. -/
def setAll (d : Draft) (given : List (Key × Loose)) : Except Fault Draft :=
  given.foldlM (fun d g => d.set g.1 g.2) d

theorem setAll_cons {given : List (Key × Loose)} :
    d.setAll ((key, value) :: given) = (d.set key value).bind (·.setAll given) := rfl

theorem pending_of_set (h : d.set key value = .ok d') : d'.pending = d.pending := by
  unfold set at h
  split at h
  · cases h
  · obtain ⟨setting, -, h⟩ := bind_eq_ok.mp h
    cases h
    rfl

theorem settle_of_pending_eq_none (h : d.pending = none) : d.settle = .ok d := by
  rw [settle, h]

theorem pending_of_settle (h : d.settle = .ok d') : d'.pending = none := by
  unfold settle at h
  split at h
  · rename_i hpending
    cases h
    exact hpending
  · cases h
  · rw [pending_of_set h]

/-- What comes of arguments behind a draft: their options are set on top of what was pending, or the
first of them is the value of the option that is pending without one. -/
inductive Takes (d : Draft) : List Loose → Draft → Prop
  | given {args given d₁ d'} (hsettle : d.settle = .ok d₁) (hargs : Written args given)
      (hset : d₁.setAll given = .ok d') : Takes d args d'
  | value {key value args given d'} (hpending : d.pending = some (key, none))
      (hvalue : IsValue value) (hargs : Written args given)
      (hset : setAll { d with pending := none } ((key, value) :: given) = .ok d') :
      Takes d (value :: args) d'

theorem Takes.exists_given {args : List Loose} (h : d.Takes args d') (hd : d.pending = none) :
    ∃ given, Written args given ∧ d.setAll given = .ok d' := by
  cases h with
  | given hsettle hargs hset =>
    rw [settle_of_pending_eq_none hd] at hsettle
    cases hsettle
    exact ⟨_, hargs, hset⟩
  | value hpending =>
    rw [hd] at hpending
    cases hpending

theorem Takes.of_reads {a : Loose} {args : List Loose} {d₂ : Draft} (h : d.Reads a d₂)
    (hrest : d₂.Takes args d') : d.Takes (a :: args) d' := by
  cases h with
  | attached hkey value hsettle hset =>
    obtain ⟨given, hargs, hall⟩ :=
      hrest.exists_given ((pending_of_set hset).trans (pending_of_settle hsettle))
    refine .given hsettle (.attached hkey value hargs) ?_
    rw [setAll_cons, hset]
    exact hall
  | flag hkey hsettle hset =>
    obtain ⟨given, hargs, hall⟩ :=
      hrest.exists_given ((pending_of_set hset).trans (pending_of_settle hsettle))
    refine .given hsettle (.flag hkey hargs) ?_
    rw [setAll_cons, hset]
    exact hall
  | @named key d₁ hkey hsettle =>
    have hnone := pending_of_settle hsettle
    cases hrest with
    | given hstuck => cases hstuck
    | value hpending hvalue hargs hset =>
      cases hpending
      refine .given hsettle (.apart hkey hvalue hargs) ?_
      rw [← hset, ← hnone]
  | value hpending ha =>
    cases hrest with
    | given hsettle hargs hset =>
      refine .value hpending ha hargs ?_
      have hsetKey : Draft.set { d with pending := none } _ _ = .ok _ := hsettle
      rw [setAll_cons, hsetKey]
      exact hset
    | value hstuck => cases hstuck

/-- Arguments that are read are written by options and values, which are set one after the other. -/
theorem takes_of_readArguments {args : List Loose} (h : d.readArguments args = .ok d') :
    d.Takes args d' := by
  induction args generalizing d with
  | nil =>
    rw [readArguments, mapError_eq_ok] at h
    exact .given h .nil rfl
  | cons a args ih =>
    unfold readArguments at h
    split at h
    · rename_i ha
      subst ha
      cases args with
      | nil =>
        rw [mapError_eq_ok] at h
        exact .given h .closed rfl
      | cons b rest => cases h
    · obtain ⟨d₂, hread, hrest⟩ := bind_eq_ok.mp h
      exact .of_reads (reads_of_readArgument hread) (ih hrest)

theorem ne_closed_of_isValue {a : Loose} (h : IsValue a) : a ≠ Loose.ofText "--" := by
  rintro rfl
  exact absurd h (by unfold IsValue; decide)

theorem readArgument_of_isValue {a : Loose} (h : IsValue a) : d.readArgument a = d.readValue a := by
  unfold readArgument
  split
  · exact absurd h (by simp [IsValue])
  · exact absurd h (by simp [IsValue])
  · rfl

theorem readArguments_cons {a : Loose} (h : a ≠ Loose.ofText "--") (args : List Loose) :
    d.readArguments (a :: args) = (d.readArgument a).bind (·.readArguments args) := by
  rw [readArguments.eq_def]
  exact if_neg h

section Given

variable {args : List Loose} {given : List (Key × Loose)}

theorem bind_readArguments
    (hargs : ∀ d : Draft, d.readArguments args = (d.settle.bind (·.setAll given)).mapError .fault)
    (d : Draft) (key : Key) (value : Loose) :
    ((d.settle.bind (·.set key value)).mapError .fault).bind (·.readArguments args) =
      (d.settle.bind (·.setAll ((key, value) :: given))).mapError .fault := by
  cases hsettle : d.settle with
  | error f => rfl
  | ok d₁ =>
    cases hset : d₁.set key value with
    | error f =>
      change ((d₁.set key value).mapError _).bind _ = (d₁.setAll _).mapError _
      rw [setAll_cons, hset]
      rfl
    | ok d₂ =>
      change ((d₁.set key value).mapError _).bind _ = (d₁.setAll _).mapError _
      rw [setAll_cons, hset]
      change d₂.readArguments args = (d₂.setAll given).mapError _
      rw [hargs, settle_of_pending_eq_none]
      · rfl
      · rw [pending_of_set hset, pending_of_settle hsettle]

/-- Options that are written are set one after the other. -/
theorem readArguments_of_written (h : Written args given) (d : Draft) :
    d.readArguments args = (d.settle.bind (·.setAll given)).mapError .fault := by
  induction h generalizing d with
  | nil =>
    rw [readArguments]
    cases d.settle <;> rfl
  | closed =>
    rw [readArguments.eq_def]
    cases d.settle <;> rfl
  | @attached key args given hkey value _ ih =>
    rw [readArguments_cons (attached_ne_closed key value), ← bind_readArguments ih,
      ← readWord_attached hkey, ← readArgument_of_value key.equals_not_mem_word]
    rfl
  | @apart key value args given hkey hvalue _ ih =>
    have hword : d.readArgument key.spelled =
        (d.settle.map ({ · with pending := some (key, none) })).mapError .fault :=
      (readArgument_of_word key.equals_not_mem_word).trans (readWord_apart hkey)
    rw [readArguments_cons key.spelled_ne_closed, hword]
    cases hsettle : d.settle with
    | error f => rfl
    | ok d₁ =>
      let named : Draft := { d₁ with pending := some (key, none) }
      let valued : Draft := { d₁ with pending := some (key, some value) }
      have hvalued : valued.settle = d₁.set key value := by
        rw [← show { d₁ with pending := none } = d₁ by rw [← pending_of_settle hsettle]]
        rfl
      change named.readArguments (value :: args) = (d₁.setAll _).mapError _
      rw [readArguments_cons (ne_closed_of_isValue hvalue), readArgument_of_isValue hvalue]
      change valued.readArguments args = _
      rw [ih, hvalued, setAll_cons]
  | @flag key args given hkey _ ih =>
    rw [readArguments_cons key.spelled_ne_closed, ← bind_readArguments ih, ← readWord_flag hkey,
      ← readArgument_of_word key.equals_not_mem_word]
    rfl

/-- **Command lines.** Arguments are read exactly if they are written by options that can be set,
and the draft is what comes of setting them. -/
theorem readArguments_eq_ok_iff (hd : d.pending = none) :
    d.readArguments args = .ok d' ↔ ∃ given, Written args given ∧ d.setAll given = .ok d' := by
  refine ⟨fun h => (takes_of_readArguments h).exists_given hd, ?_⟩
  rintro ⟨given, hargs, hset⟩
  rw [readArguments_of_written hargs, mapError_eq_ok, settle_of_pending_eq_none hd]
  exact hset

end Given

end Draft

end TaintClient.CommandLine

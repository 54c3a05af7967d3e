/-
  Which notes are printed, by the directives of the environment and the option for the level. The
  program puts its level in the place of the general directive and of the one for the program, and
  does so too when the option is not given, with the usual level. So of the directives of the
  environment only those count that name a part of the program (`finer`).

  The rule that is promised is another one (`IsPromised`): the option counts before the directives,
  and without it they count before the usual level. `prints_as_promised_iff` says when the two
  agree.
-/
import Mathlib.Data.List.Induction
import TaintClient.Proofs.CommandLine.Accepted
import TaintClient.Program

namespace TaintClient

namespace Log

variable {a b : Limit}

/-- Limits that let the same levels pass are the same. -/
theorem eq_of_passes (h : ∀ l, passes a l = passes b l) : a = b := by
  have herror (m : Level) : passes (some m) .error = true := by cases m <;> rfl
  have hself (m : Level) : passes (some m) m = true := decide_eq_true (Nat.le_refl _)
  cases a with
  | none =>
    cases b with
    | none => rfl
    | some n => exact absurd ((h .error).trans (herror n)) Bool.false_ne_true
  | some m =>
    cases b with
    | none => exact absurd ((h .error).symm.trans (herror m)) Bool.false_ne_true
    | some n =>
      have hmn : m.rank ≤ n.rank := of_decide_eq_true ((h m).symm.trans (hself m))
      have hnm : n.rank ≤ m.rank := of_decide_eq_true ((h n).trans (hself n))
      rw [Level.rank_injective (Nat.le_antisymm hmn hnm)]

namespace Filter

variable {f : Filter} {d e : Directive} {ds : List Directive} {s : Source} {l : Level}

/-! ## The directive that counts -/

/-- The most specific one of some directives, the last of those that are alike. -/
def mostSpecific (ds : List Directive) : Option Directive := ds.foldl moreSpecific none

theorem directiveFor?_eq (f : Filter) (target : String) :
    f.directiveFor? target = mostSpecific (f.directives.filter (covers · target)) := rfl

theorem mostSpecific_concat (ds : List Directive) (d : Directive) :
    mostSpecific (ds ++ [d]) = moreSpecific (mostSpecific ds) d := List.foldl_concat ..

theorem moreSpecific_cases (best : Option Directive) (d : Directive) :
    (∃ b, best = some b ∧ specificity d < specificity b ∧ moreSpecific best d = some b) ∨
      ((∀ b, best = some b → specificity b ≤ specificity d) ∧ moreSpecific best d = some d) := by
  cases best with
  | none => exact .inr ⟨nofun, rfl⟩
  | some b =>
    by_cases h : specificity b ≤ specificity d
    · refine .inr ⟨?_, if_pos h⟩
      rintro _ ⟨⟩
      exact h
    · exact .inl ⟨b, rfl, Nat.lt_of_not_le h, if_neg h⟩

theorem mostSpecific_eq_none_iff : mostSpecific ds = none ↔ ds = [] := by
  rcases List.eq_nil_or_concat' ds with rfl | ⟨front, x, rfl⟩
  · exact iff_of_true rfl rfl
  · rw [mostSpecific_concat]
    obtain ⟨b, -, -, h⟩ | ⟨-, h⟩ := moreSpecific_cases (mostSpecific front) x
    · simp [h]
    · simp [h]

/-- It is one of them, and no other is more specific. -/
theorem mostSpecific_spec (h : mostSpecific ds = some d) :
    d ∈ ds ∧ ∀ e ∈ ds, specificity e ≤ specificity d := by
  induction ds using List.reverseRecOn generalizing d with
  | nil => cases h
  | append_singleton ds x ih =>
    simp only [List.mem_append, List.mem_singleton, or_imp, forall_and, forall_eq]
    rw [mostSpecific_concat] at h
    obtain ⟨b, hbest, hlt, hmore⟩ | ⟨hmost, hmore⟩ := moreSpecific_cases (mostSpecific ds) x
    · obtain rfl := Option.some.inj (h.symm.trans hmore)
      obtain ⟨hmem, hall⟩ := ih hbest
      exact ⟨.inl hmem, hall, Nat.le_of_lt hlt⟩
    · obtain rfl := Option.some.inj (h.symm.trans hmore)
      refine ⟨.inr rfl, fun e he => ?_, Nat.le_refl _⟩
      obtain ⟨b, hb⟩ := Option.ne_none_iff_exists'.mp
        fun hnone => List.ne_nil_of_mem he (mostSpecific_eq_none_iff.mp hnone)
      exact Nat.le_trans ((ih hb).2 e he) (hmost b hb)

/-- A directive counts if all that are as specific are the same. -/
theorem mostSpecific_eq_some (hd : d ∈ ds)
    (h : ∀ e ∈ ds, specificity d ≤ specificity e → e = d) : mostSpecific ds = some d := by
  obtain ⟨e, he⟩ := Option.ne_none_iff_exists'.mp
    fun hnone => List.ne_nil_of_mem hd (mostSpecific_eq_none_iff.mp hnone)
  obtain ⟨hmem, hall⟩ := mostSpecific_spec he
  rw [he, h e hmem (hall d hd)]

/-- The directives that are more specific than `n` count before all others. -/
theorem mostSpecific_eq_or (n : Nat) (ds : List Directive) :
    mostSpecific ds = (mostSpecific (ds.filter (n < specificity ·))).or
      (mostSpecific (ds.filter (specificity · ≤ n))) := by
  induction ds using List.reverseRecOn with
  | nil => rfl
  | append_singleton ds x ih =>
    rw [mostSpecific_concat, ih, List.filter_append, List.filter_append]
    by_cases hx : n < specificity x
    · rw [List.filter_cons_of_pos (by simpa using hx), List.filter_cons_of_neg (by simpa using hx),
        List.filter_nil, List.filter_nil, List.append_nil, mostSpecific_concat]
      cases hfine : mostSpecific (ds.filter (n < specificity ·)) with
      | some b =>
        obtain ⟨c, -, -, hmore⟩ | ⟨-, hmore⟩ := moreSpecific_cases (some b) x
        · rw [Option.some_or, hmore, Option.some_or]
        · rw [Option.some_or, hmore, Option.some_or]
      | none =>
        rw [Option.none_or]
        obtain ⟨c, hc, hlt, -⟩ | ⟨-, hmore⟩ := moreSpecific_cases
          (mostSpecific (ds.filter (specificity · ≤ n))) x
        · have hle := of_decide_eq_true (List.mem_filter.mp (mostSpecific_spec hc).1).2
          omega
        · rw [hmore]
          rfl
    · rw [List.filter_cons_of_neg (by simpa using hx), List.filter_cons_of_pos (by simpa using hx),
        List.filter_nil, List.filter_nil, List.append_nil, mostSpecific_concat]
      cases hfine : mostSpecific (ds.filter (n < specificity ·)) with
      | some b =>
        have hlt := of_decide_eq_true (List.mem_filter.mp (mostSpecific_spec hfine).1).2
        rw [Option.some_or, Option.some_or, moreSpecific, if_neg (by omega)]
      | none => rw [Option.none_or, Option.none_or]

/-! ## Directives that are put in the place of others -/

theorem mem_insert_iff : e ∈ (f.insert d).directives ↔
    e = d ∨ (e ∈ f.directives ∧ e.name ≠ d.name) := by
  unfold insert
  split
  · rename_i hany
    obtain ⟨x, hx, hname⟩ := List.any_eq_true.mp hany
    rw [decide_eq_true_eq] at hname
    constructor
    · intro he
      obtain ⟨y, hy, rfl⟩ := List.mem_map.mp he
      split
      · exact .inl rfl
      · rename_i hne
        exact .inr ⟨hy, hne⟩
    · rintro (rfl | ⟨he, hne⟩)
      · exact List.mem_map.mpr ⟨x, hx, if_pos hname⟩
      · exact List.mem_map.mpr ⟨e, he, if_neg hne⟩
  · rename_i hany
    have hne : ∀ x ∈ f.directives, x.name ≠ d.name := by simpa using hany
    rw [List.mem_append, List.mem_singleton, or_comm]
    exact or_congr_right ⟨fun he => ⟨he, hne e he⟩, And.left⟩

@[simp] theorem pattern_insert (f : Filter) (d : Directive) :
    (f.insert d).pattern = f.pattern := by
  unfold insert
  split <;> rfl

/-- The directives that are more specific than that for the program. -/
def finer (f : Filter) : Filter :=
  { f with directives := f.directives.filter (programName.length < specificity ·) }

/-- A directive that is not one of them takes the place of none of them. -/
theorem finer_insert (h : specificity d ≤ programName.length) :
    (f.insert d).finer = f.finer := by
  have hd : decide (programName.length < specificity d) = false := by simpa using h
  have hmap (ds : List Directive) :
      (ds.map fun e => if e.name = d.name then d else e).filter
          (programName.length < specificity ·) =
        ds.filter (programName.length < specificity ·) := by
    induction ds with
    | nil => rfl
    | cons e ds ih =>
      rw [List.map_cons, List.filter_cons, List.filter_cons, ih]
      by_cases he : e.name = d.name
      · have hsame : specificity e = specificity d := by rw [specificity, specificity, he]
        rw [if_pos he, hsame]
        simp [hd]
      · rw [if_neg he]
  unfold finer insert
  split
  · simp only [hmap]
  · simp [List.filter_append, hd]

/-- Finer directives count before all others. -/
theorem directiveFor?_eq_or (f : Filter) (target : String) :
    f.directiveFor? target = (f.finer.directiveFor? target).or
      (mostSpecific
        ((f.directives.filter (covers · target)).filter (specificity · ≤ programName.length))) := by
  rw [directiveFor?_eq, mostSpecific_eq_or programName.length, List.filter_comm]
  rfl

/-! ## The directives for the program -/

theorem covers_program (limit : Limit) (s : Source) :
    covers ⟨some programName, limit⟩ s.target = true := by
  show programName.toList.isPrefixOf s.target.toList = true
  cases s <;> decide

/-- Of the names of its length only that of the program begins the targets of the program. -/
theorem name_eq_of_covers (hcovers : covers d s.target = true)
    (hlength : specificity d = programName.length) : d.name = some programName := by
  have hprogram := List.isPrefixOf_iff_prefix.mp (covers_program none s)
  have hname := List.isPrefixOf_iff_prefix.mp hcovers
  have heq : d.name.getD "" = programName :=
    String.toList_injective
      ((List.prefix_of_prefix_length_le hname hprogram (Nat.le_of_eq hlength)).eq_of_length hlength)
  cases hd : d.name with
  | none =>
    rw [hd] at heq
    exact absurd heq (by decide)
  | some name =>
    rw [hd] at heq
    exact congrArg some heq

/-- Finer directives count before that for the program, and that before all others. -/
theorem directiveFor?_insert_program (f : Filter) (limit : Limit) (s : Source) :
    (f.insert ⟨some programName, limit⟩).directiveFor? s.target =
      (f.finer.directiveFor? s.target).or (some ⟨some programName, limit⟩) := by
  have hlength : specificity ⟨some programName, limit⟩ ≤ programName.length := Nat.le_refl _
  rw [directiveFor?_eq_or, finer_insert hlength]
  congr 1
  refine mostSpecific_eq_some ?_ fun e he hlength => ?_
  · refine List.mem_filter.mpr ⟨List.mem_filter.mpr ⟨?_, covers_program limit s⟩, ?_⟩
    · exact mem_insert_iff.mpr (.inl rfl)
    · exact decide_eq_true (Nat.le_refl _)
  · simp only [List.mem_filter, mem_insert_iff, decide_eq_true_eq] at he
    obtain ⟨⟨rfl | ⟨-, hne⟩, hcovers⟩, hle⟩ := he
    · rfl
    · exact absurd (name_eq_of_covers hcovers (Nat.le_antisymm hle hlength)) hne

/-- The directives of the environment. -/
def ofVariable (regex : Regex) (spec : Option String) : Filter :=
  match spec with
  | some spec => (read regex spec).1
  | none => {}

theorem atLevel_fst (regex : Regex) (spec : Option String) (level : Level) :
    (atLevel regex spec level).1 =
      ((ofVariable regex spec).insert ⟨none, some level⟩).insert
        ⟨some programName, some level⟩ := by
  cases spec <;> rfl

/-- The limit for a part of the program: that of the finer directive that counts for it, or else
the level of the program. -/
def limitFor (f : Filter) (level : Level) (s : Source) : Limit :=
  match f.finer.directiveFor? s.target with
  | some d => d.limit
  | none => some level

theorem enables_atLevel (regex : Regex) (spec : Option String) (level l : Level) (s : Source) :
    (atLevel regex spec level).1.enables s.target l =
      passes ((ofVariable regex spec).limitFor level s) l := by
  have hgeneral : specificity ⟨none, some level⟩ ≤ programName.length := Nat.zero_le _
  rw [enables, atLevel_fst, directiveFor?_insert_program, finer_insert hgeneral, limitFor]
  cases (ofVariable regex spec).finer.directiveFor? s.target <;> rfl

/-- What is printed: the notes within the limit of their part whose message has the pattern of the
environment, if there is one. -/
theorem admits_atLevel (regex : Regex) (spec : Option String) (level : Level) (r : Record) :
    (atLevel regex spec level).1.admits r = true ↔
      passes ((ofVariable regex spec).limitFor level r.source) r.level = true ∧
        ∀ occurs, (ofVariable regex spec).pattern = some occurs → occurs r.message = true := by
  have hpattern : (atLevel regex spec level).1.pattern = (ofVariable regex spec).pattern := by
    rw [atLevel_fst, pattern_insert, pattern_insert]
  rw [admits, enables_atLevel, hpattern, Bool.and_eq_true]
  cases (ofVariable regex spec).pattern <;> simp

/-! ## What is promised -/

/-- Whether a directive is for the program: for everything, for the program, or for a part of it. -/
def isForProgram (d : Directive) : Bool :=
  match d.name with
  | none => true
  | some name => name = programName || (programName ++ "::").toList.isPrefixOf name.toList

/-- Whether directives set a level for the program. -/
def concernsProgram (f : Filter) : Bool := f.directives.any isForProgram

/-- The rule that is promised: the level of the option, if it is given; else the directives, if they
set a level for the program; else the usual level. -/
def IsPromised (f : Filter) (option : Option Level) (r : Record) : Prop :=
  match option with
  | some level => r.level.rank ≤ level.rank
  | none =>
    if f.concernsProgram then f.enables r.source.target r.level = true
    else r.level.rank ≤ Level.info.rank

/-- The same as a limit for each part of the program. -/
def promisedLimit (f : Filter) (option : Option Level) (s : Source) : Limit :=
  match option with
  | some level => some level
  | none =>
    if f.concernsProgram then (f.directiveFor? s.target).bind (·.limit) else some .info

theorem isPromised_iff (f : Filter) (option : Option Level) (r : Record) :
    f.IsPromised option r ↔ passes (f.promisedLimit option r.source) r.level = true := by
  cases option with
  | some level => exact (decide_eq_true_iff (p := r.level.rank ≤ level.rank)).symm
  | none =>
    rw [IsPromised, promisedLimit]
    split
    · rw [enables]
      cases f.directiveFor? r.source.target <;> rfl
    · exact (decide_eq_true_iff (p := r.level.rank ≤ Level.info.rank)).symm

/-- When the program keeps that rule. With the option, no finer directive may set another level.
Without it, each part of the program needs a finer directive, or one that sets the usual level; and
if the directives do not set a level for the program, no finer one may set another than the usual. -/
def IsKept (f : Filter) (option : Option Level) : Prop :=
  match option with
  | some level =>
    ∀ (s : Source) (d : Directive), f.finer.directiveFor? s.target = some d → d.limit = some level
  | none =>
    if f.concernsProgram then
      ∀ s : Source, (∃ d, f.finer.directiveFor? s.target = some d) ∨
        ∃ d, f.directiveFor? s.target = some d ∧ d.limit = some .info
    else
      ∀ (s : Source) (d : Directive), f.finer.directiveFor? s.target = some d →
        d.limit = some .info

theorem limitFor_eq_some_iff {level : Level} : f.limitFor level s = some level ↔
    ∀ d, f.finer.directiveFor? s.target = some d → d.limit = some level := by
  rw [limitFor]
  cases f.finer.directiveFor? s.target with
  | none => simp
  | some d => simp

theorem isKept_iff (f : Filter) (option : Option Level) :
    f.IsKept option ↔
      ∀ s, f.limitFor (option.getD .info) s = f.promisedLimit option s := by
  cases option with
  | some level => exact forall_congr' fun s => limitFor_eq_some_iff.symm
  | none =>
    rw [IsKept]
    simp only [promisedLimit, Option.getD_none]
    split
    · refine forall_congr' fun s => ?_
      rw [limitFor]
      cases hfiner : f.finer.directiveFor? s.target with
      | some d =>
        rw [directiveFor?_eq_or, hfiner, Option.some_or]
        exact iff_of_true (.inl ⟨d, rfl⟩) rfl
      | none =>
        rw [eq_comm (a := some Level.info), Option.bind_eq_some_iff]
        simp
    · exact forall_congr' fun s => limitFor_eq_some_iff.symm

end Filter

end Log

namespace Program

open CommandLine (Accepted Key Written)
open Text (Loose)

variable {regex : Log.Regex} {e : Environment} {args : List Loose} {given : List (Key × Loose)}
  {c : Config} {r : Log.Record}

/-- Whether a note is printed. -/
def Prints (regex : Log.Regex) (e : Environment) (c : Config) (r : Log.Record) : Prop :=
  .record c.logFormat r ∈ noteNotices regex e c [r]

theorem mem_noteNotices (regex : Log.Regex) (e : Environment) (c : Config)
    (notes : List Log.Record) (r : Log.Record) :
    .record c.logFormat r ∈ noteNotices regex e c notes ↔
      r ∈ notes ∧ (Log.Filter.atLevel regex (e.value? Log.Filter.directivesVariable)
        c.logLevel).1.admits r = true := by
  simp [noteNotices, warningNotice]

/-- A note is printed or not whatever other notes there are. -/
theorem mem_noteNotices_iff_prints (regex : Log.Regex) (e : Environment) (c : Config)
    (notes : List Log.Record) (r : Log.Record) :
    .record c.logFormat r ∈ noteNotices regex e c notes ↔ r ∈ notes ∧ Prints regex e c r := by
  rw [Prints, mem_noteNotices, mem_noteNotices, List.mem_singleton, eq_self, true_and]

/-- The level that is given by the option. -/
def optionLevel (given : List (Key × Loose)) : Option Log.Level :=
  (given.lookup .logLevel).bind fun value => Log.Level.all.find? (Loose.ofText ·.word = value)

theorem logLevel_eq {environmentEndpoint : Option String}
    (h : Accepted environmentEndpoint args given c) :
    c.logLevel = (optionLevel given).getD .info := by
  have hvalue := h.valueIn_eq .logLevel nofun
  have husual : Key.logLevel.valueIn (CommandLine.configOf environmentEndpoint []) =
      some (.ofText Log.Level.info.word) := rfl
  have hfind (l : Log.Level) :
      Log.Level.all.find? (Loose.ofText ·.word = Loose.ofText l.word) = some l := by
    cases l <;> decide
  rw [husual, Key.valueIn] at hvalue
  rw [optionLevel]
  cases hgiven : given.lookup .logLevel with
  | none =>
    rw [hgiven, Option.none_or, Option.some_inj] at hvalue
    rw [Option.bind_none, Option.getD_none]
    exact Option.some.inj ((hfind _).symm.trans (hvalue ▸ hfind _))
  | some value =>
    rw [hgiven, Option.some_or, Option.some_inj] at hvalue
    rw [Option.bind_some, ← hvalue, hfind, Option.getD_some]

/-- **Option and directives.** For every accepted command line, whatever the variable of directives
holds, and whatever regular expressions are: a note is printed if its level is within the limit of
its part of the program and its message has the pattern of the variable, if there is one. The limit
is that of the directive for the part, if one counts that is finer than the program's; else it is
the level of the option, or the usual one where the option is not given. Without a pattern, all
notes are printed by the rule that is promised if and only if no finer directive stands against the
option, and, where the option is not given, the variable does not set another level than the usual
one by any directive that is not finer. -/
theorem prints_as_promised_iff (regex : Log.Regex) (h : command e args = .ok (.run c)) :
    let directives := Log.Filter.ofVariable regex (e.value? Log.Filter.directivesVariable)
    ∃ given : List (Key × Loose), (∀ other, Written args other ↔ other = given) ∧
      (∀ notes r, .record c.logFormat r ∈ noteNotices regex e c notes ↔
        r ∈ notes ∧ Prints regex e c r) ∧
      (∀ r, Prints regex e c r ↔
        Log.passes (directives.limitFor ((optionLevel given).getD .info) r.source) r.level = true ∧
          ∀ occurs, directives.pattern = some occurs → occurs r.message = true) ∧
      (directives.pattern = none →
        ((∀ r, Prints regex e c r ↔ directives.IsPromised (optionLevel given) r) ↔
          directives.IsKept (optionLevel given))) := by
  intro directives
  obtain ⟨given, _, hgiven, -⟩ := CommandLine.exists_accepted h
  have hprints (r : Log.Record) : Prints regex e c r ↔
      Log.passes (directives.limitFor ((optionLevel given).getD .info) r.source) r.level = true ∧
        ∀ occurs, directives.pattern = some occurs → occurs r.message = true := by
    rw [Prints, mem_noteNotices, logLevel_eq hgiven, Log.Filter.admits_atLevel,
      List.mem_singleton, eq_self, true_and]
  refine ⟨given, hgiven.unique, mem_noteNotices_iff_prints regex e c, hprints, fun hpattern => ?_⟩
  have hlimit (r : Log.Record) : Prints regex e c r ↔
      Log.passes (directives.limitFor ((optionLevel given).getD .info) r.source) r.level = true := by
    rw [hprints, hpattern]
    exact and_iff_left nofun
  simp only [hlimit, Log.Filter.isPromised_iff, Log.Filter.isKept_iff]
  constructor
  · intro hall s
    refine Log.eq_of_passes fun l => ?_
    rw [Bool.eq_iff_iff]
    exact hall ⟨l, s, ""⟩
  · intro hall r
    rw [hall]

/-- The option counts before a directive for everything. -/
theorem prints_option_over_variable :
    let regex : Log.Regex := .error
    let e : Environment := ⟨[(Log.Filter.directivesVariable, .ofText "debug")]⟩
    let args := ["--code=60", "--log-level=warn"].map Loose.ofText
    let c : Config := { code := some "60", logLevel := .warn }
    command e args = .ok (.run c) ∧
      ∀ r, Prints regex e c r ↔ r.level.rank ≤ Log.Level.warn.rank := by
  intro regex e args c
  have hread : command e args = .ok (.run c) := by decide +kernel
  have hargs : args = [Key.code.spelled ++ some '=' :: Loose.ofText "60",
      Key.logLevel.spelled ++ some '=' :: Loose.ofText "warn"] := by decide +kernel
  have hwritten : Written args [(.code, .ofText "60"), (.logLevel, .ofText "warn")] := by
    rw [hargs]
    exact .attached (by decide) _ (.attached (by decide) _ .nil)
  obtain ⟨given, hgiven, -, -, hkept⟩ := prints_as_promised_iff regex hread
  obtain rfl := (hgiven _).mp hwritten
  have hvalue : e.value? Log.Filter.directivesVariable = some "debug" := by decide +kernel
  rw [hvalue] at hkept
  have hpattern : (Log.Filter.ofVariable regex (some "debug")).pattern = none :=
    Option.isNone_iff_eq_none.mp (by decide +kernel)
  have hoption : optionLevel [(.code, .ofText "60"), (.logLevel, .ofText "warn")] = some .warn := by
    decide +kernel
  rw [hoption] at hkept
  refine ⟨hread, (hkept hpattern).mpr fun s d hd => ?_⟩
  have hfiner : (Log.Filter.ofVariable regex (some "debug")).finer.directives = [] := by
    decide +kernel
  rw [Log.Filter.directiveFor?, hfiner] at hd
  cases hd

/-- Without the option the variable should count, but the usual level does: the note on what is
submitted is not printed. -/
theorem not_prints_by_variable :
    let regex : Log.Regex := .error
    let e : Environment := ⟨[(Log.Filter.directivesVariable, .ofText "debug")]⟩
    let args := ["--code=60", "--endpoint=http://127.0.0.1:1"].map Loose.ofText
    let given : List (Key × Loose) :=
      [(.code, .ofText "60"), (.endpoint, .ofText "http://127.0.0.1:1")]
    let c : Config := { code := some "60", endpoint := "http://127.0.0.1:1" }
    let r : Log.Record := ⟨.debug, .client, "Submitting bytecode analysis (2 bytes of code, " ++
      "0 bytes of input) to http://127.0.0.1:1/api/analyze"⟩
    let directives := Log.Filter.ofVariable regex (e.value? Log.Filter.directivesVariable)
    command e args = .ok (.run c) ∧ Written args given ∧ optionLevel given = none ∧
      directives.concernsProgram = true ∧ directives.enables r.source.target r.level = true ∧
      ¬ (Prints regex e c r ↔ directives.IsPromised (optionLevel given) r) := by
  intro regex e args given c r directives
  have hread : command e args = .ok (.run c) := by decide +kernel
  have hargs : args = [Key.code.spelled ++ some '=' :: Loose.ofText "60",
      Key.endpoint.spelled ++ some '=' :: Loose.ofText "http://127.0.0.1:1"] := by decide +kernel
  have hwritten : Written args given := by
    rw [hargs]
    exact .attached (by decide) _ (.attached (by decide) _ .nil)
  have hoption : optionLevel given = none := by decide +kernel
  have hconcerns : directives.concernsProgram = true := by decide +kernel
  have henables : directives.enables r.source.target r.level = true := by decide +kernel
  refine ⟨hread, hwritten, hoption, hconcerns, henables, fun h => ?_⟩
  have hpromised : directives.IsPromised (optionLevel given) r := by
    rw [hoption, Log.Filter.IsPromised, if_pos hconcerns]
    exact henables
  have hprints := ((mem_noteNotices regex e c [r] r).mp (h.mpr hpromised)).2
  have hnot : (Log.Filter.atLevel regex (e.value? Log.Filter.directivesVariable)
      c.logLevel).1.admits r = false := by decide +kernel
  exact absurd (hprints.symm.trans hnot) (by decide)

end Program

end TaintClient

/-
  Command lines that are written from configurations. Every setting of a configuration is written as
  one argument, and the arguments, in any order, are read as this configuration again, whatever the
  values are and whatever the variable of the endpoint holds. An argument that stands twice is
  refused.
-/
import Mathlib.Data.List.Perm.Basic
import TaintClient.Proofs.CommandLine.Accepted

namespace TaintClient.CommandLine

open Text (Loose)

variable {held : Option Loose} {args : List Loose} {settings : List Setting} {c : Config}

/-! ## Arguments of settings -/

/-- A setting as one argument: the value stands behind an equals sign, whatever it looks like. -/
def Setting.argument (s : Setting) : Loose :=
  if s.key.takesValue then s.key.spelled ++ some '=' :: s.value else s.key.spelled

theorem written_map_argument (settings : List Setting) :
    Written (settings.map Setting.argument) (settings.map fun s => (s.key, s.value)) := by
  induction settings with
  | nil => exact .nil
  | cons s settings ih =>
    rw [List.map_cons, List.map_cons]
    cases hkey : s.key.takesValue with
    | true =>
      rw [Setting.argument, if_pos hkey]
      exact .attached hkey s.value ih
    | false =>
      have hdemo : s = .demo := by cases s <;> first | rfl | cases hkey
      subst hdemo
      exact .flag rfl ih

theorem Draft.inheritedEndpoint_of_has {d : Draft} (h : d.has .endpoint = true)
    (held : Option Loose) : d.inheritedEndpoint held = .ok none := by
  cases held with
  | none => rfl
  | some value => exact if_pos h

theorem readArguments_map_argument (settings : List Setting) :
    ({} : Draft).readArguments (settings.map Setting.argument) =
      (Draft.setAll {} (settings.map fun s => (s.key, s.value))).mapError .fault := by
  rw [Draft.readArguments_of_written (written_map_argument settings),
    Draft.settle_of_pending_eq_none rfl]
  rfl

/-- Settings of different options that can stand together, one of them an endpoint, are read as
their configuration. -/
theorem read_map_argument (hpath : ∀ s ∈ settings, s ≠ .codeFile [])
    (hn : (settings.map Setting.key).Nodup) (hendpoint : .endpoint ∈ settings.map Setting.key)
    (hcompatible : conflict? (settings.map Setting.key) = none) :
    read held (settings.map Setting.argument) = .ok (.run (configOf none settings)) := by
  have hset := Draft.setAll_of_nodup (d := {}) hpath hn
  rw [List.nil_append] at hset
  rw [read, readArguments_map_argument, hset]
  dsimp only [Except.mapError]
  rw [Draft.inheritedEndpoint_of_has (Draft.has_iff.mpr hendpoint), hcompatible]

/-- Settings that are not of different options are refused for an option that stands twice. -/
theorem read_map_argument_of_repeated (hpath : ∀ s ∈ settings, s ≠ .codeFile [])
    (hn : ¬ (settings.map Setting.key).Nodup) :
    ∃ key, 2 ≤ (settings.map Setting.key).count key ∧
      read held (settings.map Setting.argument) = .error (.repeated key) := by
  obtain ⟨key, hcount, hset⟩ := Draft.exists_repeated (d := {}) hpath List.nodup_nil hn
  rw [List.nil_append] at hcount
  refine ⟨key, hcount, ?_⟩
  rw [read, readArguments_map_argument, hset]
  rfl

/-! ## Settings of configurations -/

/-- What it means that a configuration can be asked for: it names one source of code at most, no
input with the bundled contract, and no file without a name. -/
structure Compatible (c : Config) : Prop where
  source : c.code = none ∨ c.codeFile = none
  demo : c.demo = true → c.code = none ∧ c.codeFile = none ∧ c.input = ""
  path : c.codeFile ≠ some []

/-- The settings that say a configuration. What it does not have is left out, and with the bundled
contract the input. -/
def settingsOf (c : Config) : List Setting :=
  .mode c.mode :: (c.code.toList.map .code ++ c.codeFile.toList.map .codeFile ++
    c.name.toList.map .name ++ (if c.demo then [.demo] else [.input c.input]) ++
    [.endpoint c.endpoint, .timeoutSeconds c.timeoutSeconds, .output c.output,
      .logLevel c.logLevel, .logFormat c.logFormat])

theorem nodup_settingsOf (c : Config) : ((settingsOf c).map Setting.key).Nodup := by
  obtain ⟨mode, code, codeFile, input, name, demo, endpoint, timeout, output, level, format⟩ := c
  cases code <;> cases codeFile <;> cases name <;> cases demo <;>
    simp [settingsOf, Setting.key]

theorem endpoint_mem_settingsOf (c : Config) : .endpoint c.endpoint ∈ settingsOf c := by
  simp [settingsOf]

/-- What a configuration that can be asked for has: at most one source of code. -/
theorem Compatible.cases (h : Compatible c) :
    (c.demo = true ∧ c.code = none ∧ c.codeFile = none ∧ c.input = "") ∨
    (c.demo = false ∧ c.codeFile = none) ∨ (c.demo = false ∧ c.code = none) := by
  cases hd : c.demo with
  | true => exact .inl ⟨rfl, h.demo hd⟩
  | false =>
    rcases h.source with hc | hf
    · exact .inr (.inr ⟨rfl, hc⟩)
    · exact .inr (.inl ⟨rfl, hf⟩)

theorem conflict?_settingsOf (h : Compatible c) :
    conflict? ((settingsOf c).map Setting.key) = none := by
  obtain ⟨mode, code, codeFile, input, name, demo, endpoint, timeout, output, level, format⟩ := c
  rcases h.cases with ⟨rfl, rfl, rfl, -⟩ | ⟨rfl, rfl⟩ | ⟨rfl, rfl⟩
  · cases name <;> rfl
  · cases code <;> cases name <;> rfl
  · cases codeFile <;> cases name <;> rfl

theorem configOf_settingsOf (h : Compatible c) : configOf none (settingsOf c) = c := by
  obtain ⟨mode, code, codeFile, input, name, demo, endpoint, timeout, output, level, format⟩ := c
  rcases h.cases with ⟨rfl, rfl, rfl, rfl⟩ | ⟨rfl, rfl⟩ | ⟨rfl, rfl⟩
  · cases name <;> rfl
  · cases code <;> cases name <;> rfl
  · cases codeFile <;> cases name <;> rfl

theorem ne_codeFile_nil_of_mem (h : Compatible c) {s : Setting} (hs : s ∈ settingsOf c) :
    s ≠ .codeFile [] := by
  rintro rfl
  refine h.path ?_
  obtain ⟨mode, code, codeFile, input, name, demo, endpoint, timeout, output, level, format⟩ := c
  cases demo <;> simpa [settingsOf] using hs

/-! ## Command lines -/

theorem exists_map_of_perm {α β : Type} {f : α → β} {l : List α} {l' : List β}
    (h : l'.Perm (l.map f)) : ∃ k : List α, k.Perm l ∧ k.map f = l' := by
  have hcomp : Relation.Comp (· = List.map f ·) (·.Perm ·) l' l := by
    rw [List.eq_map_comp_perm]
    exact h
  obtain ⟨k, hk, hperm⟩ := hcomp
  exact ⟨k, hperm, hk.symm⟩

theorem read_of_perm (hc : Compatible c) (h : args.Perm ((settingsOf c).map Setting.argument)) :
    read held args = .ok (.run c) := by
  obtain ⟨settings, hperm, rfl⟩ := exists_map_of_perm h
  have hn : (settings.map Setting.key).Nodup := (hperm.map _).nodup_iff.mpr (nodup_settingsOf c)
  have hcompatible : conflict? (settings.map Setting.key) = none := by
    rw [conflict?_eq_none_iff]
    intro a ha b hb
    exact conflict?_eq_none_iff.mp (conflict?_settingsOf hc) a ((hperm.map _).mem_iff.mp ha) b
      ((hperm.map _).mem_iff.mp hb)
  have hpath : ∀ s ∈ settings, s ≠ .codeFile [] := fun s hs =>
    ne_codeFile_nil_of_mem hc (hperm.mem_iff.mp hs)
  have hendpoint : .endpoint ∈ settings.map Setting.key := by
    rw [(hperm.map _).mem_iff]
    exact List.mem_map_of_mem (f := Setting.key) (endpoint_mem_settingsOf c)
  have hconfig : configOf none settings = c :=
    (foldl_apply_of_perm hperm hn _).trans (configOf_settingsOf hc)
  rw [read_map_argument hpath hn hendpoint hcompatible, hconfig]

theorem read_of_perm_cons (hc : Compatible c) {s : Setting} (hs : s ∈ settingsOf c)
    (h : args.Perm (s.argument :: (settingsOf c).map Setting.argument)) :
    read held args = .error (.repeated s.key) := by
  obtain ⟨settings, hperm, rfl⟩ := exists_map_of_perm (l := s :: settingsOf c) h
  have hkeys := hperm.map Setting.key
  have hpath : ∀ t ∈ settings, t ≠ .codeFile [] := by
    intro t ht
    rcases List.mem_cons.mp (hperm.mem_iff.mp ht) with rfl | ht
    · exact ne_codeFile_nil_of_mem hc hs
    · exact ne_codeFile_nil_of_mem hc ht
  have hn : ¬ (settings.map Setting.key).Nodup := by
    rw [hkeys.nodup_iff, List.map_cons, List.nodup_cons]
    exact fun h => h.1 (List.mem_map_of_mem hs)
  obtain ⟨key, hcount, hread⟩ := read_map_argument_of_repeated hpath hn
  -- All options of the configuration are different, so the one that stands twice is that of `s`.
  have hkey : s.key = key := by
    have honce := List.nodup_iff_count_le_one.mp (nodup_settingsOf c) key
    rw [hkeys.count_eq, List.map_cons, List.count_cons] at hcount
    by_contra hne
    rw [if_neg (by simpa using hne)] at hcount
    omega
  rw [hread, hkey]

/-- **Round trip of command lines.** For every configuration that can be asked for, and whatever
the variable of the endpoint holds, the arguments of its settings in any order are read as exactly
this configuration; and if one of them stands there twice, the command line is refused for it. -/
theorem read_arguments (hc : Compatible c) (held : Option Loose) :
    (∀ args : List Loose, args.Perm ((settingsOf c).map Setting.argument) →
      read held args = .ok (.run c)) ∧
    ∀ s ∈ settingsOf c, ∀ args : List Loose,
      args.Perm (s.argument :: (settingsOf c).map Setting.argument) →
        read held args = .error (.repeated s.key) :=
  ⟨fun _ h => read_of_perm hc h, fun _ hs _ h => read_of_perm_cons hc hs h⟩

/-- Values that look like options, and the greatest number. -/
theorem read_arguments_lookalikes :
    let c : Config :=
      { code := some "--demo", input := "-h", name := some "", endpoint := "=--", output := .html
        timeoutSeconds := 18446744073709551615 }
    let args := ["--timeout-seconds=18446744073709551615", "--code=--demo", "--output=html",
      "--name=", "--input=-h", "--endpoint==--", "--mode=bytecode", "--log-format=plain",
      "--log-level=info"].map Loose.ofText
    read (some (.ofText "other")) args = .ok (.run c) ∧
      read none (.ofText "--name=" :: args) = .error (.repeated .name) := by
  intro c args
  have hc : Compatible c := ⟨.inr rfl, nofun, nofun⟩
  have hargs : args.Perm ((settingsOf c).map Setting.argument) := by decide +kernel
  have hname : .name "" ∈ settingsOf c := by decide +kernel
  exact ⟨(read_arguments hc (some (.ofText "other"))).1 args hargs,
    (read_arguments hc none).2 (.name "") hname (.ofText "--name=" :: args) (hargs.cons _)⟩

end TaintClient.CommandLine

/-
  Which command lines are accepted, and as what. Options are set once at most
  (`Draft.exists_repeated`), none with one that it cannot stand with, and the configuration of an
  accepted command line says what is given and nothing else (`Accepted`, `exists_accepted`).
-/
import Mathlib.Data.List.Forall2
import TaintClient.Proofs.CommandLine.Argument
import TaintClient.Proofs.CommandLine.Setting

namespace TaintClient.CommandLine

open Text (Loose)

/-! ## Setting options -/

namespace Draft

variable {d d' : Draft} {key : Key} {value : Loose} {given : List (Key × Loose)}
  {settings : List Setting}

theorem has_iff : d.has key = true ↔ key ∈ d.settings.map Setting.key := by
  simp [has]

theorem set_of_has (h : d.has key = true) : d.set key value = .error (.repeated key) := by
  rw [set, if_pos h]
  rfl

theorem set_of_not_has (h : ¬ d.has key = true) :
    d.set key value =
      (readSetting key value).map fun s => { d with settings := d.settings ++ [s] } := by
  rw [set, if_neg h]
  cases readSetting key value <;> rfl

theorem nodup_concat_key {s : Setting} (hd : (d.settings.map Setting.key).Nodup)
    (h : ¬ d.has s.key = true) : ((d.settings ++ [s]).map Setting.key).Nodup := by
  rw [has_iff] at h
  rw [List.map_append, List.map_singleton, List.nodup_append]
  refine ⟨hd, List.pairwise_singleton _ _, fun k hk k' hk' hkk => h ?_⟩
  rwa [← List.mem_singleton.mp hk', ← hkk]

/-- Options that are set are read one by one, and are different. -/
theorem exists_settings_of_setAll (h : d.setAll given = .ok d')
    (hd : (d.settings.map Setting.key).Nodup) :
    ∃ settings, List.Forall₂ (fun g s => readSetting g.1 g.2 = .ok s) given settings ∧
      d'.settings = d.settings ++ settings ∧ (d'.settings.map Setting.key).Nodup := by
  induction given generalizing d with
  | nil =>
    cases h
    exact ⟨[], .nil, (List.append_nil _).symm, hd⟩
  | cons g given ih =>
    obtain ⟨key, value⟩ := g
    rw [setAll_cons] at h
    obtain ⟨d₁, hset, hrest⟩ := bind_eq_ok.mp h
    by_cases hhas : d.has key = true
    · rw [set_of_has hhas] at hset
      cases hset
    · rw [set_of_not_has hhas] at hset
      obtain ⟨s, hs, rfl⟩ := map_eq_ok.mp hset
      obtain rfl := key_of_readSetting hs
      obtain ⟨settings, hsettings, hd', hn⟩ := ih hrest (nodup_concat_key hd hhas)
      refine ⟨s :: settings, .cons hs hsettings, ?_, hn⟩
      rw [hd', List.append_assoc, List.singleton_append]

/-- An option that was not set before is set to what its value says. -/
theorem setAll_cons_value {s : Setting} (hs : s ≠ .codeFile []) (h : ¬ d.has s.key = true) :
    d.setAll ((s.key, s.value) :: given) =
      setAll { d with settings := d.settings ++ [s] } given := by
  rw [setAll_cons, set_of_not_has h, readSetting_value hs]
  rfl

/-- Different options are set. -/
theorem setAll_of_nodup (hs : ∀ s ∈ settings, s ≠ .codeFile [])
    (hn : ((d.settings ++ settings).map Setting.key).Nodup) :
    d.setAll (settings.map fun s => (s.key, s.value)) =
      .ok { d with settings := d.settings ++ settings } := by
  induction settings generalizing d with
  | nil =>
    rw [List.append_nil]
    rfl
  | cons s settings ih =>
    have hhas : ¬ d.has s.key = true := by
      rw [List.map_append, List.map_cons, List.nodup_append] at hn
      rw [has_iff]
      exact fun h => hn.2.2 _ h _ List.mem_cons_self rfl
    rw [List.append_cons] at hn
    rw [List.map_cons, setAll_cons_value (hs s List.mem_cons_self) hhas,
      ih (fun t ht => hs t (List.mem_cons_of_mem s ht)) hn, ← List.append_cons]

/-- Of options that are not different, one is refused as it is set the second time. -/
theorem exists_repeated (hs : ∀ s ∈ settings, s ≠ .codeFile [])
    (hd : (d.settings.map Setting.key).Nodup)
    (hn : ¬ ((d.settings ++ settings).map Setting.key).Nodup) :
    ∃ key, 2 ≤ ((d.settings ++ settings).map Setting.key).count key ∧
      d.setAll (settings.map fun s => (s.key, s.value)) = .error (.repeated key) := by
  -- The induction is on what is still to be set; what was set is in the draft, without repetition.
  induction settings generalizing d with
  | nil =>
    rw [List.append_nil] at hn
    exact absurd hd hn
  | cons s settings ih =>
    by_cases hhas : d.has s.key = true
    · refine ⟨s.key, ?_, ?_⟩
      · have hcount := List.count_pos_iff.mpr (has_iff.mp hhas)
        rw [List.map_append, List.map_cons, List.count_append, List.count_cons_self]
        omega
      · rw [List.map_cons, setAll_cons, set_of_has hhas]
        rfl
    · rw [List.append_cons] at hn ⊢
      rw [List.map_cons, setAll_cons_value (hs s List.mem_cons_self) hhas]
      exact ih (d := { d with settings := d.settings ++ [s] })
        (fun t ht => hs t (List.mem_cons_of_mem s ht)) (nodup_concat_key hd hhas) hn

end Draft

theorem conflict?_eq_none_iff {keys : List Key} :
    conflict? keys = none ↔ ∀ a ∈ keys, ∀ b ∈ keys, a.conflicts b = false := by
  rw [conflict?, List.findSome?_eq_none_iff]
  refine forall₂_congr fun a ha => ?_
  split
  · rename_i h
    simpa using h
  · rename_i h
    simpa using h

/-! ## Accepted command lines -/

section Accepted

variable {environmentEndpoint : Option String} {args : List Loose} {given : List (Key × Loose)}
  {value : Loose} {settings : List Setting} {key : Key} {c : Config}

/-- What it means that a command line is accepted with these options and values as this
configuration. -/
structure Accepted (environmentEndpoint : Option String) (args : List Loose)
    (given : List (Key × Loose)) (c : Config) : Prop where
  written : Written args given
  /-- No option is given twice. -/
  nodup : (given.map Prod.fst).Nodup
  compatible : ∀ a ∈ given.map Prod.fst, ∀ b ∈ given.map Prod.fst, a.conflicts b = false
  told : ∀ key value, given.lookup key = some value →
    ∃ s, readSetting key value = .ok s ∧ key.valueIn c = some s.value
  /-- What is not given is as usual. -/
  usual : ∀ key, given.lookup key = none →
    key.valueIn c = key.valueIn (configOf environmentEndpoint [])

theorem keys_eq (h : List.Forall₂ (fun g s => readSetting g.1 g.2 = .ok s) given settings) :
    settings.map Setting.key = given.map Prod.fst := by
  induction h with
  | nil => rfl
  | cons hread _ ih => rw [List.map_cons, List.map_cons, ih, key_of_readSetting hread]

theorem exists_mem_settings
    (h : List.Forall₂ (fun g s => readSetting g.1 g.2 = .ok s) given settings)
    (hg : (key, value) ∈ given) : ∃ s ∈ settings, readSetting key value = .ok s := by
  induction h with
  | nil => cases hg
  | @cons g s _ _ hread _ ih =>
    rcases List.mem_cons.mp hg with rfl | hg
    · exact ⟨s, List.mem_cons_self, hread⟩
    · obtain ⟨t, ht, hread⟩ := ih hg
      exact ⟨t, List.mem_cons_of_mem _ ht, hread⟩

theorem mem_of_lookup (h : given.lookup key = some value) : (key, value) ∈ given := by
  obtain ⟨before, after, rfl, -⟩ := List.lookup_eq_some_iff.mp h
  exact List.mem_append_right _ List.mem_cons_self

theorem lookup_eq_none_iff : given.lookup key = none ↔ key ∉ given.map Prod.fst := by
  rw [List.lookup_eq_none_iff, List.mem_map]
  constructor
  · rintro h ⟨p, hp, rfl⟩
    simpa using h p hp
  · intro h p hp
    rw [bne_iff_ne]
    rintro rfl
    exact h ⟨p, hp, rfl⟩

theorem Draft.has_of_inheritedEndpoint {d : Draft} {held : Option Loose}
    (h : d.inheritedEndpoint held = .ok environmentEndpoint) :
    d.has .endpoint = true ∨ held = environmentEndpoint.map .ofText := by
  unfold inheritedEndpoint at h
  split at h
  · cases h
    exact .inr rfl
  · split at h
    · exact .inl ‹_›
    · obtain ⟨s, hs, rfl⟩ := map_eq_ok.mp h
      exact .inr (congrArg some (eq_of_readText hs))

/-- An accepted command line gives options once each, none of them with one that it cannot stand
with; and its configuration says all of them and nothing else. Unless it gives an endpoint, the
variable of the endpoint holds text if anything. -/
theorem exists_accepted {held : Option Loose} (h : read held args = .ok (.run c)) :
    ∃ given environmentEndpoint, Accepted environmentEndpoint args given c ∧
      (given.lookup .endpoint = none → held = environmentEndpoint.map .ofText) := by
  unfold read at h
  split at h
  · cases h
  · cases h
  · cases h
  · rename_i d hd
    split at h
    · cases h
    · cases h
    · rename_i environmentEndpoint hinherited hconflict
      cases h
      obtain ⟨given, hwritten, hset⟩ := (Draft.readArguments_eq_ok_iff rfl).mp hd
      obtain ⟨settings, hread, hsettings, hn⟩ :=
        Draft.exists_settings_of_setAll hset List.nodup_nil
      rw [List.nil_append] at hsettings
      rw [hsettings] at hn hconflict ⊢
      have hkeys := keys_eq hread
      refine ⟨given, environmentEndpoint, ⟨hwritten, hkeys ▸ hn, ?_, ?_, ?_⟩, fun hnone => ?_⟩
      · rw [← hkeys]
        exact conflict?_eq_none_iff.mp hconflict
      · intro key value hvalue
        obtain ⟨s, hs, hsvalue⟩ := exists_mem_settings hread (mem_of_lookup hvalue)
        obtain rfl := key_of_readSetting hsvalue
        exact ⟨s, hsvalue, valueIn_foldl_of_mem hn hs _⟩
      · intro key hnone
        rw [lookup_eq_none_iff, ← hkeys] at hnone
        exact valueIn_foldl_of_not_mem hnone _
      · rw [lookup_eq_none_iff, ← hkeys, ← hsettings, ← Draft.has_iff] at hnone
        exact (Draft.has_of_inheritedEndpoint hinherited).resolve_left hnone

/-- What a command line gives is said by its arguments alone. -/
theorem Accepted.unique (h : Accepted environmentEndpoint args given c)
    (other : List (Key × Loose)) : Written args other ↔ other = given := by
  constructor
  · exact fun hother => h.written.unique hother
  · rintro rfl
    exact h.written

/-- The configuration has the values that are given, and else the usual ones. Numbers are left out:
they may be given in other digits than they are usually written in. -/
theorem Accepted.valueIn_eq (h : Accepted environmentEndpoint args given c) (key : Key)
    (hkey : key ≠ .timeoutSeconds) :
    key.valueIn c = (given.lookup key).or (key.valueIn (configOf environmentEndpoint [])) := by
  cases hvalue : given.lookup key with
  | none => rw [h.usual key hvalue, Option.none_or]
  | some value =>
    obtain ⟨s, hs, hc⟩ := h.told key value hvalue
    rw [hc, Option.some_or, Option.some_inj]
    by_cases hdemo : key = .demo
    · subst hdemo
      cases hs
      exact (h.written.value_of_flag (mem_of_lookup hvalue) rfl).symm
    · exact (eq_value_of_readSetting hs hdemo hkey).symm

/-- An option that has no usual value is given with the value that it has. -/
theorem Accepted.lookup_eq (h : Accepted environmentEndpoint args given c) (key : Key)
    (hkey : key ≠ .timeoutSeconds) (husual : key.valueIn (configOf environmentEndpoint []) = none) :
    given.lookup key = key.valueIn c := by
  rw [h.valueIn_eq key hkey, husual, Option.or_none]

/-- An option that has a usual value is given with the value that it has, or has the usual one. -/
theorem Accepted.lookup_getD (h : Accepted environmentEndpoint args given c) (key : Key)
    (hkey : key ≠ .timeoutSeconds) {usual value : Loose}
    (husual : key.valueIn (configOf environmentEndpoint []) = some usual)
    (hvalue : key.valueIn c = some value) : (given.lookup key).getD usual = value := by
  rw [h.valueIn_eq key hkey, husual, Option.or_some] at hvalue
  exact Option.some.inj hvalue

/-- Options that cannot stand together are not both given. -/
theorem Accepted.lookup_of_conflicts (h : Accepted environmentEndpoint args given c) {a b : Key}
    (ha : given.lookup a ≠ none) (hconflicts : a.conflicts b = true) : given.lookup b = none := by
  rw [ne_eq, lookup_eq_none_iff, not_not] at ha
  rw [lookup_eq_none_iff]
  intro hb
  rw [h.compatible a ha b hb] at hconflicts
  cases hconflicts

end Accepted

end TaintClient.CommandLine

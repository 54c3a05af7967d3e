/-
  What settings are read from and what they do. `Setting.value` is how the value of a setting is
  usually written; all values but those of numbers are written in no other way. A configuration that
  settings of different options were applied to has their values (`Key.valueIn`), whatever their
  order, and is otherwise as it was.
-/
import Mathlib.Data.List.Nodup
import TaintClient.CommandLine.Reader
import TaintClient.Proofs.Except
import TaintClient.Proofs.Text.Digits
import TaintClient.Proofs.Text.Octets

namespace TaintClient.CommandLine

open Text (Loose)

/-! ## Values -/

/-- The value of a setting as it is written. -/
def Setting.value : Setting → Loose
  | .mode m => .ofText m.name
  | .code s => .ofText s
  | .codeFile path => path
  | .input s => .ofText s
  | .name s => .ofText s
  | .demo => []
  | .endpoint s => .ofText s
  | .timeoutSeconds n => .ofText (toString n.toNat)
  | .output f => .ofText f.word
  | .logLevel l => .ofText l.word
  | .logFormat f => .ofText f.word

section Choice

variable {α : Type} {key : Key} {all : List α} {word : α → String}

theorem readChoice_word {a : α} (h : all.find? (word · = word a) = some a) :
    readChoice key all word (.ofText (word a)) = .ok a := by
  rw [readChoice, Loose.text_ofText, Option.bind_some, h]

theorem eq_of_readChoice {value : Loose} {a : α} (h : readChoice key all word value = .ok a) :
    value = .ofText (word a) := by
  unfold readChoice at h
  split at h
  · rename_i a' hfound
    cases h
    obtain ⟨s, hs, hfind⟩ := Option.bind_eq_some_iff.mp hfound
    have hword := List.find?_some (p := fun a : α => decide (word a = s)) hfind
    rw [of_decide_eq_true hword]
    exact Loose.text?_eq_some_iff.mp hs
  · cases h

end Choice

theorem readText_ofText (s : String) : readText (.ofText s) = .ok s := by
  rw [readText, Loose.text_ofText]

theorem eq_of_readText {value : Loose} {s : String} (h : readText value = .ok s) :
    value = .ofText s := by
  unfold readText at h
  split at h
  · rename_i t ht
    cases h
    exact Loose.text?_eq_some_iff.mp ht
  · cases h

/-- Digits that do not get too large are read as their number, and so did not get too large on the
way. -/
theorem readDigits_of_lt {s : List Char} {n : Nat} (hdigits : ∀ c ∈ s, c.isDigit = true)
    (hlt : Nat.ofDigitChars 10 s n < UInt64.size) :
    readDigits n s = .ok (UInt64.ofNat (Nat.ofDigitChars 10 s n)) := by
  induction s generalizing n with
  | nil => rfl
  | cons c s ih =>
    obtain ⟨hc, hs⟩ := List.forall_mem_cons.mp hdigits
    rw [Nat.ofDigitChars_cons, Nat.mul_comm 10 n] at hlt ⊢
    have hmore : n * 10 + (c.toNat - 48) < UInt64.size :=
      Nat.lt_of_le_of_lt (Text.le_ofDigitChars s _) hlt
    rw [readDigits, if_neg (not_not_intro hc), if_pos hmore]
    exact ih hs hlt

/-- A number is read from its digits, however many of the sixty-four bits it takes. -/
theorem readNumber_decimal (n : UInt64) : readNumber (toString n.toNat).toList = .ok n := by
  have hdigits : ∀ c ∈ Nat.toDigits 10 n.toNat, c.isDigit = true := fun c hc =>
    Nat.isDigit_of_mem_toDigits (by decide) (by decide) hc
  have hread := readDigits_of_lt hdigits (n := 0)
  rw [Nat.ofDigitChars_ten_toDigits, UInt64.ofNat_toNat] at hread
  rw [Nat.toString_eq_ofList_toDigits, String.toList_ofList]
  cases hs : Nat.toDigits 10 n.toNat with
  | nil => exact absurd hs Nat.toDigits_ne_nil
  | cons c s =>
    rw [hs] at hdigits hread
    have hplus : c ≠ '+' := by
      rintro rfl
      exact absurd (hdigits '+' List.mem_cons_self) (by decide)
    have hread := hread n.toNat_lt_size
    simpa [readNumber, hplus] using hread

/-- What is written for a setting is read as it. -/
theorem readSetting_value {s : Setting} (h : s ≠ .codeFile []) :
    readSetting s.key s.value = .ok s := by
  cases s with
  | mode m =>
    rw [Setting.key, readSetting, Setting.value, readChoice_word (by cases m <;> rfl)]
    rfl
  | output f =>
    rw [Setting.key, readSetting, Setting.value, readChoice_word (by cases f <;> rfl)]
    rfl
  | logLevel l =>
    rw [Setting.key, readSetting, Setting.value, readChoice_word (by cases l <;> rfl)]
    rfl
  | logFormat f =>
    rw [Setting.key, readSetting, Setting.value, readChoice_word (by cases f <;> rfl)]
    rfl
  | code | input | name | endpoint =>
    rw [Setting.key, readSetting, Setting.value, readText_ofText]
    rfl
  | demo => rfl
  | codeFile path =>
    cases path with
    | nil => exact absurd rfl h
    | cons c path => rfl
  | timeoutSeconds n =>
    refine bind_eq_ok.mpr ⟨toString n.toNat, readText_ofText _, ?_⟩
    rw [readNumber_decimal]
    rfl

/-- A value is read as a setting of its option. -/
theorem key_of_readSetting {key : Key} {value : Loose} {s : Setting}
    (h : readSetting key value = .ok s) : s.key = key := by
  cases key with
  | mode | code | input | name | endpoint | output | logLevel | logFormat =>
    obtain ⟨_, -, rfl⟩ := map_eq_ok.mp h
    rfl
  | demo =>
    cases h
    rfl
  | codeFile =>
    rw [readSetting] at h
    split at h <;> cases h
    rfl
  | timeoutSeconds =>
    obtain ⟨t, -, h⟩ := bind_eq_ok.mp h
    split at h <;> cases h
    rfl

/-- All values but those of numbers are written in one way. -/
theorem eq_value_of_readSetting {key : Key} {value : Loose} {s : Setting}
    (h : readSetting key value = .ok s) (hdemo : key ≠ .demo) (htime : key ≠ .timeoutSeconds) :
    value = s.value := by
  cases key with
  | mode | output | logLevel | logFormat =>
    obtain ⟨_, hread, rfl⟩ := map_eq_ok.mp h
    exact eq_of_readChoice hread
  | code | input | name | endpoint =>
    obtain ⟨_, hread, rfl⟩ := map_eq_ok.mp h
    exact eq_of_readText hread
  | codeFile =>
    rw [readSetting] at h
    split at h <;> cases h
    rfl
  | demo => exact absurd rfl hdemo
  | timeoutSeconds => exact absurd rfl htime

/-! ## Configurations -/

/-- The value that an option has in a configuration, as it is written. -/
def Key.valueIn (c : Config) : Key → Option Loose
  | .mode => some (.ofText c.mode.name)
  | .code => c.code.map .ofText
  | .codeFile => c.codeFile
  | .input => some (.ofText c.input)
  | .name => c.name.map .ofText
  | .demo => if c.demo then some [] else none
  | .endpoint => some (.ofText c.endpoint)
  | .timeoutSeconds => some (.ofText (toString c.timeoutSeconds.toNat))
  | .output => some (.ofText c.output.word)
  | .logLevel => some (.ofText c.logLevel.word)
  | .logFormat => some (.ofText c.logFormat.word)

variable {s t : Setting} {settings : List Setting} {key : Key}

theorem valueIn_apply (s : Setting) (c : Config) : s.key.valueIn (s.apply c) = some s.value := by
  cases s <;> rfl

theorem valueIn_apply_of_ne (h : s.key ≠ key) (c : Config) :
    key.valueIn (s.apply c) = key.valueIn c := by
  cases s <;> cases key <;> first | rfl | exact absurd rfl h

/-- An option that is not set is as it was. -/
theorem valueIn_foldl_of_not_mem (h : key ∉ settings.map Setting.key) (c : Config) :
    key.valueIn (settings.foldl Setting.apply c) = key.valueIn c := by
  induction settings generalizing c with
  | nil => rfl
  | cons t settings ih =>
    rw [List.map_cons, List.mem_cons, not_or] at h
    rw [List.foldl_cons, ih h.2, valueIn_apply_of_ne (Ne.symm h.1)]

/-- An option that is set once has the value that it was set to. -/
theorem valueIn_foldl_of_mem (hn : (settings.map Setting.key).Nodup) (hs : s ∈ settings)
    (c : Config) : s.key.valueIn (settings.foldl Setting.apply c) = some s.value := by
  induction settings generalizing c with
  | nil => cases hs
  | cons t settings ih =>
    rw [List.map_cons, List.nodup_cons] at hn
    rw [List.foldl_cons]
    rcases List.mem_cons.mp hs with rfl | hs
    · rw [valueIn_foldl_of_not_mem hn.1, valueIn_apply]
    · exact ih hn.2 hs _

/-- Settings of different options do not depend on their order. -/
theorem Setting.apply_comm (h : s.key ≠ t.key) (c : Config) :
    t.apply (s.apply c) = s.apply (t.apply c) := by
  cases s <;> cases t <;> first | rfl | exact absurd rfl h

theorem foldl_apply_of_perm {settings' : List Setting} (h : settings.Perm settings')
    (hn : (settings.map Setting.key).Nodup) (c : Config) :
    settings.foldl Setting.apply c = settings'.foldl Setting.apply c := by
  refine h.foldl_eq' (fun s hs t ht c => ?_) c
  by_cases hst : s.key = t.key
  · rw [List.inj_on_of_nodup_map hn hs ht hst]
  · exact Setting.apply_comm hst c

end TaintClient.CommandLine

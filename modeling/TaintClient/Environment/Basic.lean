/-
  The variables that a program is started with. What they hold need be no text. A variable that is
  set to text stays as it is; one that holds octets which are no text counts as not set wherever
  text is asked for.
-/
import TaintClient.Text.Loose

namespace TaintClient

open Text (Loose)

/-- Variables by name. Of two entries of one name the first counts. -/
structure Environment where
  entries : List (String × Loose)
deriving DecidableEq, Repr

namespace Environment

/-- An environment without variables. -/
def empty : Environment := ⟨[]⟩

/-- What a variable holds, if it is set. -/
def held? (e : Environment) (name : String) : Option Loose :=
  (e.entries.find? (·.1 = name)).map (·.2)

/-- The value of a variable, if it is set to text. -/
def value? (e : Environment) (name : String) : Option String := (e.held? name).bind Loose.text?

/-- Sets a variable unless it is set to text. -/
def setDefault (e : Environment) (name value : String) : Environment :=
  match e.value? name with
  | some _ => e
  | none => ⟨e.entries.filter (·.1 ≠ name) ++ [(name, .ofText value)]⟩

/-- The first variable with U+0000 in its value. No system has any such, and a program that sets one
ends. -/
def unholdable? (e : Environment) : Option (String × Loose) :=
  e.entries.find? (·.2.contains (some '\x00'))

theorem value?_of_held? {e : Environment} {name value : String}
    (h : e.held? name = some (.ofText value)) : e.value? name = some value := by
  rw [value?, h, Option.bind_some, Loose.text_ofText]

/-- What is set holds the value unless it held text before; every other variable is as before. -/
theorem held?_setDefault (e : Environment) (name key value : String) :
    (e.setDefault key value).held? name =
      if key = name ∧ e.value? key = none then some (.ofText value) else e.held? name := by
  unfold setDefault
  cases h : e.value? key with
  | some v => simp
  | none =>
    by_cases hn : key = name
    · subst hn
      have habsent : (e.entries.filter (·.1 ≠ key)).find? (·.1 = key) = none :=
        List.find?_eq_none.mpr fun p hp => by simpa using (List.mem_filter.mp hp).2
      rw [held?, List.find?_append, habsent]
      simp
    · have hne (p : String × Loose) : (p.1 ≠ key ∧ p.1 = name) ↔ p.1 = name :=
        and_iff_right_of_imp fun hp => hp ▸ Ne.symm hn
      simp [held?, List.find?_append, hn, hne]

/-- The variable is set afterwards; every other one, and one that was set, is as before. -/
theorem value_setDefault (e : Environment) (name key value : String) :
    (e.setDefault key value).value? name =
      (e.value? name).or (if key = name then some value else none) := by
  by_cases hn : key = name
  · subst hn
    cases h : e.value? key with
    | some v => simp [setDefault, h]
    | none =>
      have hheld := held?_setDefault e key key value
      rw [if_pos ⟨rfl, h⟩] at hheld
      rw [value?_of_held? hheld, if_pos rfl, Option.none_or]
  · rw [value?, held?_setDefault, if_neg fun h => hn h.1, if_neg hn, Option.or_none, value?]

end Environment

end TaintClient

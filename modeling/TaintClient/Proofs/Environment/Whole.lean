/-
  Whether files of variables take effect as wholes. A file that fails to load keeps the assignments
  above its first malformed line, and then the other file is loaded on top of them; so the two files
  can both have their say, and one of them only in part. This happens exactly if a file that is read
  and fails assigns to a variable that is not set to text.
-/
import TaintClient.Config
import TaintClient.Proofs.Environment.Loading

namespace TaintClient.Environment

/-- The environment with one file as a whole: that of the working directory if it loads, else that
beside the program if it loads, else none. -/
def withOneFile (e : Environment) (working beside : Option String) : Environment :=
  if loads working then e.assign (e.assigned working)
  else if loads beside then e.assign (e.assigned beside)
  else e

/-- Whether files take effect as wholes: one of them at most, and nothing of one that fails. -/
structure TakesWhole (e : Environment) (working beside : Option String) : Prop where
  one : e.withFiles working beside = e.withOneFile working beside
  /-- A file of the working directory that fails contributes nothing, whatever the other one is. -/
  failed : loads working = false → e.withFiles working none = e

/-- Whether a file fails to load and yet assigns to a variable that is not set to text. -/
def IsHalfTaken (e : Environment) (file : Option String) : Prop :=
  loads file = false ∧ ∃ name, e.value? name = none ∧ (e.assigned file).lookup name ≠ none

variable {e : Environment} {file working beside : Option String}

theorem assign_assigned_eq_self_iff (h : loads file = false) :
    e.assign (e.assigned file) = e ↔ ¬ IsHalfTaken e file := by
  rw [assign_eq_self_iff, IsHalfTaken, not_and, not_exists]
  refine ⟨fun hall _ name hname => hname.2 (hall name hname.1), fun hall name hname => ?_⟩
  exact Classical.byContradiction fun hne => hall h name ⟨hname, hne⟩

theorem not_isHalfTaken_of_loads (h : loads file = true) : ¬ IsHalfTaken e file := by
  rintro ⟨hfails, -⟩
  rw [h] at hfails
  cases hfails

theorem withFiles_of_loads (h : loads working = true) :
    e.withFiles working beside = e.assign (e.assigned working) := by
  rw [withFiles_eq]
  exact if_pos h

/-- A file that fails comes before the other one, as far as it goes. -/
theorem withFiles_of_fails (h : loads working = false) :
    e.withFiles working beside =
      (e.assign (e.assigned working)).assign ((e.assign (e.assigned working)).assigned beside) := by
  rw [withFiles_eq]
  exact if_neg (by simp [h])

theorem withOneFile_of_fails (h : loads working = false) :
    e.withOneFile working beside =
      if loads beside then e.assign (e.assigned beside) else e := by
  rw [withOneFile, h]
  rfl

theorem takesWhole_of_loads (h : loads working = true) : TakesWhole e working beside where
  one := by rw [withFiles_of_loads h, withOneFile, if_pos h]
  failed hfails := by
    rw [h] at hfails
    cases hfails

theorem takesWhole_of_fails (h : loads working = false) :
    TakesWhole e working beside ↔ ¬ IsHalfTaken e working ∧ ¬ IsHalfTaken e beside := by
  have hnone : e.withFiles working none = e.assign (e.assigned working) := withFiles_of_fails h
  constructor
  · rintro ⟨hone, hfailed⟩
    have hw := hnone.symm.trans (hfailed h)
    refine ⟨(assign_assigned_eq_self_iff h).mp hw, fun hb => ?_⟩
    rw [withFiles_of_fails h, hw, withOneFile_of_fails h, hb.1] at hone
    exact (assign_assigned_eq_self_iff hb.1).mp hone hb
  · rintro ⟨hw, hb⟩
    rw [← assign_assigned_eq_self_iff h] at hw
    refine ⟨?_, fun _ => hnone.trans hw⟩
    rw [withFiles_of_fails h, hw, withOneFile_of_fails h]
    split
    · rfl
    · rename_i hfails
      exact (assign_assigned_eq_self_iff (Bool.not_eq_true _ ▸ hfails)).mpr hb

/-- **Half-applied files.** The first part says what loading comes to: the file of the working
directory makes its assignments up to its first malformed line, and unless it loads, the file beside
the program makes its own on top of them, also up to its first malformed line. The second part
says when this is one file as a whole: exactly if no file that is read and fails to load assigns,
above its first malformed line, to a variable that is not set to text. -/
theorem takesWhole_iff (e : Environment) (working beside : Option String) :
    (e.withFiles working beside =
      let after := e.assign (e.assigned working)
      if loads working then after else after.assign (after.assigned beside)) ∧
    (TakesWhole e working beside ↔
      ¬ IsHalfTaken e working ∧ (loads working = false → ¬ IsHalfTaken e beside)) := by
  refine ⟨withFiles_eq e working beside, ?_⟩
  cases hw : loads working with
  | true =>
    refine ⟨fun _ => ⟨not_isHalfTaken_of_loads hw, nofun⟩, fun _ => takesWhole_of_loads hw⟩
  | false =>
    rw [takesWhole_of_fails hw]
    exact and_congr_right fun _ => ⟨fun hb _ => hb, fun hb => hb rfl⟩

/-- The endpoint of a file that fails stands, though the file beside the program loads and names
another one. -/
theorem not_takesWhole_halfApplied :
    let working := some (endpointVariable ++ "=x\n?\n")
    let beside := some (endpointVariable ++ "=y\n")
    loads working = false ∧ loads beside = true ∧
      (empty.withFiles working beside).value? endpointVariable = some "x" ∧
      (empty.withOneFile working beside).value? endpointVariable = some "y" ∧
      ¬ TakesWhole empty working beside := by
  intro working beside
  have hseen : (empty.withFiles working beside).value? endpointVariable = some "x" := by
    decide +kernel
  have hwhole : (empty.withOneFile working beside).value? endpointVariable = some "y" := by
    decide +kernel
  refine ⟨by decide +kernel, by decide +kernel, hseen, hwhole, fun h => ?_⟩
  rw [h.one, hwhole] at hseen
  exact absurd (Option.some.inj hseen) (by decide)

end TaintClient.Environment

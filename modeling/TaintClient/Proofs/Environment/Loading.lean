/-
  What loading files of variables does. A file assigns to variables, line after line, up to its
  first malformed line. Which lines are malformed is said by the text alone; what a value stands for
  may depend on the variables that are set when the line is read. Of the assignments to a variable
  the first counts, and none if the variable was set to text before. The program goes on unless an
  assignment that counts has a value with U+0000 (`exists_loaded_iff`).
-/
import TaintClient.Environment.File
import TaintClient.Proofs.Text.Octets

namespace TaintClient.Environment

open Text (Loose)

variable {e : Environment} {working beside : Option String} {name value : String}
  {as : List (String × String)} {p : String × Loose}

/-! ## Assignments -/

/-- The environment after assignments. -/
def assign (e : Environment) (as : List (String × String)) : Environment :=
  as.foldl (fun e a => e.setDefault a.1 a.2) e

theorem assign_cons (e : Environment) (a : String × String) (as : List (String × String)) :
    e.assign (a :: as) = (e.setDefault a.1 a.2).assign as := rfl

theorem lookup_cons_eq (name : String) (a : String × String) (as : List (String × String)) :
    (a :: as).lookup name = (if a.1 = name then some a.2 else none).or (as.lookup name) := by
  by_cases ha : a.1 = name
  · rw [List.lookup_cons, beq_iff_eq.mpr ha.symm, if_pos ha, Option.some_or]
  · have hname : (name == a.1) = false := beq_eq_false_iff_ne.mpr (Ne.symm ha)
    rw [List.lookup_cons, hname, if_neg ha, Option.none_or]

/-- What is set to text stays as it is, and of several assignments the first counts. -/
theorem value?_assign (e : Environment) (as : List (String × String)) (name : String) :
    (e.assign as).value? name = (e.value? name).or (as.lookup name) := by
  induction as generalizing e with
  | nil => rw [List.lookup_nil, Option.or_none, assign, List.foldl_nil]
  | cons a as ih => rw [assign_cons, ih, value_setDefault, Option.or_assoc, lookup_cons_eq]

theorem setDefault_of_value? {key value v : String} (h : e.value? key = some v) :
    e.setDefault key value = e := by
  rw [setDefault, h]

/-- Assignments change nothing exactly if all are to variables that are set to text. -/
theorem assign_eq_self_iff :
    e.assign as = e ↔ ∀ name, e.value? name = none → as.lookup name = none := by
  constructor
  · intro h name hname
    have hvalue := value?_assign e as name
    rw [h, hname, Option.none_or] at hvalue
    exact hvalue.symm
  · intro h
    induction as with
    | nil => rfl
    | cons a as ih =>
      cases hset : e.value? a.1 with
      | none =>
        have := h a.1 hset
        rw [lookup_cons_eq, if_pos rfl] at this
        cases this
      | some v =>
        rw [assign_cons, setDefault_of_value? hset]
        refine ih fun name hname => ?_
        have := h name hname
        rw [lookup_cons_eq, Option.or_eq_none_iff] at this
        exact this.2

theorem isSome_readValue (f g : List Char → List Char) (p : Place) (s : List Char) :
    (readValue f p s).isSome = (readValue g p s).isSome := by
  fun_induction readValue f p s <;> simp_all [readValue]
  split <;> simp_all

/-- Whether an assignment is malformed is said by its text alone. -/
theorem readAssignment_eq_malformed (e e' : Environment) (name s : List Char) :
    e.readAssignment name s = .malformed ↔ e'.readAssignment name s = .malformed := by
  unfold readAssignment
  split
  · rename_i s
    dsimp only
    split
    · exact Iff.rfl
    · have := isSome_readValue e.substitute e'.substitute .plain (Text.trimStart s)
      cases h : readValue e.substitute .plain (Text.trimStart s) <;>
        cases h' : readValue e'.substitute .plain (Text.trimStart s) <;> simp_all
  · exact Iff.rfl

/-- Whether a line is malformed is said by its text alone. -/
theorem readLine_eq_malformed (e e' : Environment) (l : List Char) :
    e.readLine l = .malformed ↔ e'.readLine l = .malformed := by
  unfold readLine
  dsimp only
  split
  · exact Iff.rfl
  · split
    · exact Iff.rfl
    · split
      · split
        · exact Iff.rfl
        · exact readAssignment_eq_malformed e e' _ _
      · exact readAssignment_eq_malformed e e' _ _

/-- Whether a line is whole and not malformed. -/
def isSound : Option (List Char) → Bool
  | none => false
  | some l => empty.readLine l ≠ .malformed

theorem isSound_some (e : Environment) (l : List Char) :
    isSound (some l) = decide (e.readLine l ≠ .malformed) := by
  rw [isSound, decide_eq_decide, Ne, Ne, readLine_eq_malformed]

/-- The assignments of lines up to the first malformed one. -/
def assignments (e : Environment) : List (Option (List Char)) → List (String × String)
  | [] => []
  | none :: _ => []
  | some l :: ls =>
    match e.readLine l with
    | .nothing => assignments e ls
    | .assignment name value => (name, value) :: assignments (e.setDefault name value) ls
    | .malformed => []

/-- Loading lines makes their assignments, and goes well if all of them are sound. -/
theorem loadLines_eq (e : Environment) (ls : List (Option (List Char))) :
    e.loadLines ls = (e.assign (e.assignments ls), ls.all isSound) := by
  induction ls generalizing e with
  | nil => rfl
  | cons l ls ih =>
    cases l with
    | none => rfl
    | some l =>
      rw [loadLines, assignments, List.all_cons, isSound_some e]
      cases e.readLine l with
      | nothing => exact ih e
      | assignment name value => exact ih (e.setDefault name value)
      | malformed => rfl

/-! ## Files -/

/-- Whether a file loads: it is there and all of its lines are sound. -/
def loads : Option String → Bool
  | none => false
  | some file => (fileLines file).all isSound

/-- The assignments of a file up to its first malformed line. A file that is missing has none. -/
def assigned (e : Environment) : Option String → List (String × String)
  | none => []
  | some file => e.assignments (fileLines file)

theorem loadFile_eq (e : Environment) (file : String) :
    e.loadFile file = (e.assign (e.assigned (some file)), loads (some file)) :=
  loadLines_eq e (fileLines file)

/-- **Loading files.** The file of the working directory makes its assignments up to its first
malformed line. If it is missing or malformed, the file beside the program then makes its
assignments, also up to its first malformed line. -/
theorem withFiles_eq (e : Environment) (working beside : Option String) :
    e.withFiles working beside =
      let after := e.assign (e.assigned working)
      if loads working then after else after.assign (after.assigned beside) := by
  unfold withFiles
  cases working with
  | none =>
    cases beside with
    | none => rfl
    | some second =>
      dsimp only
      rw [loadFile_eq]
      rfl
  | some first =>
    dsimp only
    rw [loadFile_eq]
    cases beside with
    | none => rfl
    | some second =>
      dsimp only
      rw [loadFile_eq]

end TaintClient.Environment

/-
  One submission, and the fields in which it is sent. Values are sent as they are: nothing is
  trimmed, checked or limited.
-/
import TaintClient.Mode

namespace TaintClient

/-- One submission. -/
structure Request where
  mode : Mode
  code : String
  input : String
  /-- The contract to pick from compiled source. -/
  contractName : Option String := none
deriving DecidableEq, Repr

/-- The fields of the request, in the order in which they are sent. The name of a contract is
sent when there is one, also an empty one. -/
def Request.fields (r : Request) : List (String × String) :=
  [("type", r.mode.name), ("code", r.code), ("input", r.input)] ++
    r.contractName.toList.map (("name", ·))

/-- The values of the input elements of a page, by element; an element occurs at most once. -/
structure Form where
  values : List (String × String)
deriving Repr

namespace Form

/-- A page without elements. -/
def empty : Form := ⟨[]⟩

/-- Writes the value of an element. -/
def set (f : Form) (id value : String) : Form :=
  ⟨(id, value) :: f.values.filter (·.1 ≠ id)⟩

/-- The value of an element, if the page has it. -/
def value? (f : Form) (id : String) : Option String := f.values.lookup id

/-- A page with the two elements of a mode. -/
def ofMode (m : Mode) (code input : String) : Form :=
  (empty.set m.codeElement code).set m.inputElement input

/-- The request that the page holds for a mode, or the first element that it lacks. -/
def request (f : Form) (m : Mode) : Except String Request :=
  match f.value? m.codeElement, f.value? m.inputElement with
  | none, _ => .error m.codeElement
  | some _, none => .error m.inputElement
  | some code, some input => .ok ⟨m, code, input, none⟩

end Form

end TaintClient

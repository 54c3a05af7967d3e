/-
  What a submission analyses: Solidity source or runtime bytecode. The name of a mode travels in
  the request; its identifiers name the elements of the page that belong to it.
-/

namespace TaintClient

/-- What the code of a submission is. -/
inductive Mode
  | solidity
  | bytecode
deriving DecidableEq, Repr

namespace Mode

/-- Every mode, in the order in which they are offered. -/
def all : List Mode := [.solidity, .bytecode]

/-- The name of the mode, also its value in a request. -/
def name : Mode → String
  | .solidity => "solidity"
  | .bytecode => "bytecode"

/-- The mode of a name, which has to be spelled exactly. -/
def ofName? (s : String) : Option Mode := all.find? (·.name = s)

/-- The mode of a name in any mixture of ASCII capitals and small letters. -/
def ofNameIgnoringCase? (s : String) : Option Mode :=
  all.find? (fun m => m.name.toList.map Char.toLower = s.toList.map Char.toLower)

/-- The element that holds the code. -/
def codeElement : Mode → String
  | .solidity => "solidity"
  | .bytecode => "bytecode"

/-- The element that holds the call data. -/
def inputElement : Mode → String
  | .solidity => "solidity_input"
  | .bytecode => "bytecode_input"

/-- The label beside the submit control. -/
def labelElement : Mode → String
  | .solidity => "solidity_analyze"
  | .bytecode => "bytecode_analyze"

end Mode

end TaintClient

/-
  A mode as a JSON text: its name as a string, or an object whose only member has that name and
  the value `null`.
-/
import TaintClient.Json.Reader
import TaintClient.Mode

namespace TaintClient.Mode

open Json

/-- The mode as a JSON text. -/
def encode (m : Mode) : String := String.ofList (writeText m.name.toList)

/-- Reads the name of a mode. -/
def readName (c : Cursor) : Except Fault (Mode × Cursor) := do
  let (s, c) ← readString "variant identifier" c
  match ofName? (String.ofList s) with
  | some m => .ok (m, c)
  | none => .error ⟨.unknownVariant s (all.map name), c.place⟩

/-- Reads the value of the only member. -/
def readNull (c : Cursor) : Except Fault Cursor :=
  let c := c.skipSpace
  match c.rest with
  | [] => .error ⟨.endInValue, c.peekPlace⟩
  | x :: _ => if x = 'n' then expectWord "ull".toList c.next else .error (wrongType "unit" c)

/-- Reads an object behind its opening sign. -/
def readObject (c : Cursor) : Except Fault (Mode × Cursor) := do
  let (m, c) ← readName c
  let c ← expectColon c
  let c ← readNull c
  let c := c.skipSpace
  match c.rest with
  | [] => .error ⟨.endInObject, c.place⟩
  | x :: _ => if x = '\x7d' then .ok (m, c.next) else .error ⟨.expectedValue, c.place⟩

/-- Reads a mode. -/
def read (c : Cursor) : Except Fault (Mode × Cursor) :=
  let c := c.skipSpace
  match c.rest with
  | [] => .error ⟨.endInValue, c.peekPlace⟩
  | x :: _ =>
    if x = '{' then readObject c.next
    else if x = '"' then readName c
    else .error ⟨.expectedValue, c.peekPlace⟩

/-- Reads the mode that a whole text writes. -/
def decode (s : String) : Except Fault Mode := do
  let (m, c) ← read (Cursor.ofText s.toList)
  expectEnd c
  .ok m

end TaintClient.Mode

/-
  Reading a response from a JSON text: an object with the member `data`, or a list of the members'
  values in the order of the fields. Members other than the five known ones are stepped over; a
  known one must not occur twice.
-/
import TaintClient.Json.Reader
import TaintClient.Response

namespace TaintClient.Response

open Json

/-- The known members. -/
inductive Field
  | data
  | title
  | color
  | code
  | status
deriving DecidableEq, Repr

namespace Field

/-- Every known member, in the order of a list. -/
def all : List Field := [.data, .title, .color, .code, .status]

/-- The name of a member. -/
def name : Field → String
  | .data => "data"
  | .title => "title"
  | .color => "color"
  | .code => "code"
  | .status => "status"

/-- The known member of a name. -/
def ofName? (s : List Char) : Option Field := all.find? (·.name.toList = s)

end Field

/-- The members read so far; an inner `none` is a `null`. -/
structure Draft where
  data : Option String := none
  title : Option (Option String) := none
  color : Option (Option String) := none
  code : Option (Option Int64) := none
  status : Option (Option String) := none

namespace Draft

/-- Whether a member has been read. -/
def has (d : Draft) : Field → Bool
  | .data => d.data.isSome
  | .title => d.title.isSome
  | .color => d.color.isSome
  | .code => d.code.isSome
  | .status => d.status.isSome

/-- The response, once the report is there. -/
def response? (d : Draft) : Option Response :=
  d.data.map fun data => ⟨data, d.title.join, d.color.join, d.code.join, d.status.join⟩

end Draft

/-- Reads a text. -/
def readData (c : Cursor) : Except Fault (String × Cursor) := do
  let (s, d) ← readString "a string" c
  .ok (String.ofList s, d)

/-- Reads a code. -/
def readCode (c : Cursor) : Except Fault (Int64 × Cursor) := do
  let (n, d) ← readInteger c
  .ok (Int64.ofInt n, d)

/-- Reads the value of a known member. -/
def readField (d : Draft) (f : Field) (c : Cursor) : Except Fault (Draft × Cursor) :=
  match f with
  | .data => do
    let (x, c) ← readData c
    .ok ({ d with data := some x }, c)
  | .title => do
    let (x, c) ← readOptional readData c
    .ok ({ d with title := some x }, c)
  | .color => do
    let (x, c) ← readOptional readData c
    .ok ({ d with color := some x }, c)
  | .code => do
    let (x, c) ← readOptional readCode c
    .ok ({ d with code := some x }, c)
  | .status => do
    let (x, c) ← readOptional readData c
    .ok ({ d with status := some x }, c)

/-- Where a fault of the whole is reported: behind the closing sign, if that is next. -/
def placeBehind (closing : Char) (c : Cursor) : Place :=
  let c := c.skipSpace
  if c.rest.head? = some closing then c.next.place else c.place

/-- Looks for the next name of an object, behind the opening sign or behind a member. The cursor
of the answer is behind the quotation mark of the name, or, when there is no further member, at
the closing sign. -/
def nextName (first : Bool) (c : Cursor) : Except Fault (Bool × Cursor) :=
  let c := c.skipSpace
  match c.rest with
  | [] => .error ⟨.endInObject, c.peekPlace⟩
  | x :: _ =>
    if x = '\x7d' then .ok (false, c)
    else if ¬ first ∧ x ≠ ',' then .error ⟨.expectedObjectSeparator, c.peekPlace⟩
    else
      let c := if first then c else c.next.skipSpace
      match c.rest with
      | [] => .error ⟨.endInValue, c.peekPlace⟩
      | y :: _ =>
        if y = '"' then .ok (true, c.next)
        else if y = '\x7d' then .error ⟨.trailingComma, c.peekPlace⟩
        else .error ⟨.keyNotText, c.peekPlace⟩

/-- Reads one member behind the quotation mark of its name. -/
def readMember (d : Draft) (c : Cursor) : Except Fault (Draft × Cursor) := do
  let (name, c) ← readText c
  match Field.ofName? name with
  | none =>
    let c ← expectColon c
    let c ← skipValue c
    .ok (d, c)
  | some f =>
    if d.has f then .error ⟨.duplicateField f.name, placeBehind '\x7d' c⟩
    else
      let c ← expectColon c
      readField d f c

/-- Reads members up to the closing sign. A text of `fuel` characters has fewer members. -/
def readMembers : Nat → Bool → Draft → Cursor → Except Fault (Draft × Cursor)
  | 0, _, _, c => .error ⟨.endInObject, c.place⟩
  | fuel + 1, first, d, c => do
    let (more, c) ← nextName first c
    if more then
      let (d, c) ← readMember d c
      readMembers fuel false d c
    else .ok (d, c)

/-- Reads an object behind its opening sign. -/
def readObject (c : Cursor) : Except Fault (Response × Cursor) := do
  let (d, c) ← readMembers (c.left + 1) true {} c
  match d.response? with
  | none => .error ⟨.missingField Field.data.name, placeBehind '\x7d' c⟩
  | some r => .ok (r, c.next)

/-- Looks for the next value of a list, behind the opening sign or behind a value. -/
def nextItem (first : Bool) (c : Cursor) : Except Fault (Bool × Cursor) :=
  let c := c.skipSpace
  match c.rest with
  | [] => .error ⟨.endInList, c.peekPlace⟩
  | x :: _ =>
    if x = ']' then .ok (false, c)
    else if first then .ok (true, c)
    else if x = ',' then
      let c := c.next.skipSpace
      match c.rest with
      | [] => .error ⟨.endInValue, c.peekPlace⟩
      | y :: _ => if y = ']' then .error ⟨.trailingComma, c.peekPlace⟩ else .ok (true, c)
    else .error ⟨.expectedListSeparator, c.peekPlace⟩

/-- Reads the values of the given fields as far as the list goes. -/
def readItems : List Field → Bool → Draft → Cursor → Except Fault (Draft × Cursor)
  | [], _, d, c => .ok (d, c)
  | f :: fs, first, d, c => do
    let (more, c) ← nextItem first c
    if more then
      let (d, c) ← readField d f c
      readItems fs false d c
    else .ok (d, c)

/-- Closes a list all of whose fields have been read. -/
def closeList (c : Cursor) : Except Fault Cursor :=
  let c := c.skipSpace
  match c.rest with
  | [] => .error ⟨.endInList, c.peekPlace⟩
  | x :: _ =>
    if x = ']' then .ok c.next
    else if x = ',' then
      let c := c.next.skipSpace
      if c.rest.head? = some ']' then .error ⟨.trailingComma, c.peekPlace⟩
      else .error ⟨.trailingCharacters, c.peekPlace⟩
    else .error ⟨.trailingCharacters, c.peekPlace⟩

/-- Reads a list behind its opening sign. -/
def readList (c : Cursor) : Except Fault (Response × Cursor) := do
  let (d, c) ← readItems Field.all true {} c
  match d.response? with
  | none =>
    .error ⟨.wrongLength 0 "struct AnalysisResponse with 5 elements", placeBehind ']' c⟩
  | some r => do
    let c ← closeList c
    .ok (r, c)

/-- Reads a response. -/
def read (c : Cursor) : Except Fault (Response × Cursor) :=
  let c := c.skipSpace
  match c.rest with
  | [] => .error ⟨.endInValue, c.peekPlace⟩
  | x :: _ =>
    if x = '[' then readList c.next
    else if x = '{' then readObject c.next
    else .error (wrongType "struct AnalysisResponse" c)

/-- Reads the response that a whole text writes. -/
def decode (s : String) : Except Fault Response := do
  let (r, c) ← read (Cursor.ofText s.toList)
  expectEnd c
  .ok r

end TaintClient.Response

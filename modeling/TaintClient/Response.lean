/-
  The decoded body of an answer: the report, and what came with it.
-/

namespace TaintClient

/-- The decoded body of an answer with status 200. -/
structure Response where
  /-- The report: markup, with line breaks as they are. -/
  data : String
  title : Option String := none
  /-- A CSS colour. -/
  color : Option String := none
  /-- Zero for success, one for failure. -/
  code : Option Int64 := none
  /-- `success` or `fail`. -/
  status : Option String := none
deriving DecidableEq, Repr

namespace Response

/-- Whether the answer is a coloured report. -/
def isReport (r : Response) : Bool := r.color.isSome

/-- Whether the service could not carry out the analysis. The answer is shown all the same. -/
def isFailure (r : Response) : Bool := r.code = some 1 || r.status = some "fail"

end Response

end TaintClient

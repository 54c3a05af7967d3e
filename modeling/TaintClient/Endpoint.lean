/-
  Where requests are sent: the path of the analysis on the server of a base URL.
-/
import TaintClient.Url.Reader

namespace TaintClient

/-- The path that requests are sent to. -/
def analyzePath : String := "/api/analyze"

/-- The endpoint on the server of a base. A path of the base is replaced. -/
def endpoint (base : String) : Except Url.Fault Url := do
  let u ← Url.parse base
  u.join analyzePath

end TaintClient

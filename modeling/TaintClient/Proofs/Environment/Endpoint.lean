/-
  Where the endpoint comes from. There are five sources, and the first one that names an endpoint
  counts: the command line, the variables that the program is started with, the file of the working
  directory, the file beside the program, which is only read if the other one does not load, and the
  usual endpoint. A source that names an empty endpoint names one, but a variable names none if what
  it holds is no text: the files overrule it, and if they do not, no command line without an
  endpoint is accepted.
-/
import TaintClient.Program
import TaintClient.Proofs.CommandLine.Accepted
import TaintClient.Proofs.Environment.Loading

namespace TaintClient.Environment

open CommandLine (Accepted Key Written)
open Text (Loose)

variable {e : Environment} {working beside : Option String} {given : List (Key × Loose)}

end TaintClient.Environment

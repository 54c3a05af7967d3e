/-
  What the program notes while it works: a level, where the note comes from, and a message.
-/

namespace TaintClient.Log

/-- How much a note matters, most first. -/
inductive Level
  | error
  | warn
  | info
  | debug
  | trace
deriving DecidableEq, Repr

namespace Level

/-- Every level. -/
def all : List Level := [.error, .warn, .info, .debug, .trace]

/-- The place of a level in that order, from one on. -/
def rank : Level → Nat
  | .error => 1
  | .warn => 2
  | .info => 3
  | .debug => 4
  | .trace => 5

/-- The name of a level in capitals. -/
def text : Level → String
  | .error => "ERROR"
  | .warn => "WARN"
  | .info => "INFO"
  | .debug => "DEBUG"
  | .trace => "TRACE"

theorem rank_injective {a b : Level} (h : a.rank = b.rank) : a = b := by
  cases a <;> cases b <;> first | rfl | cases h

end Level

/-- The part of the program that a note comes from. -/
inductive Source
  | client
  | session
  | display
  | run
deriving DecidableEq, Repr

/-- The name of a part. -/
def Source.target : Source → String
  | .client => "taint_analyze::client"
  | .session => "taint_analyze::session"
  | .display => "taint_analyze::display"
  | .run => "taint_analyze::run"

/-- A note. -/
structure Record where
  level : Level
  source : Source
  message : String
deriving DecidableEq, Repr

/-- The notes at a level or above it. -/
def upTo (level : Level) (records : List Record) : List Record :=
  records.filter (·.level.rank ≤ level.rank)

end TaintClient.Log

/-!
# Log Events

What the service says about its own work while it runs. An event has a level,
the part of the service it comes from, a message, and details by name. How an
event becomes a line is decided elsewhere.

## Main definitions

* `Level`: How much an event matters.
* `Detail`: The value of a detail.
* `Event`: What is said.

## Theorems

* `Level.rank_injective`: No two levels matter equally.
-/

namespace Rulebook
namespace Log

/-- How much an event matters, from least to most. -/
inductive Level where
  | trace
  | debug
  | info
  | warn
  | error
  deriving DecidableEq, Repr

namespace Level

/-- The name of a level. -/
def name : Level → String
  | .trace => "TRACE"
  | .debug => "DEBUG"
  | .info => "INFO"
  | .warn => "WARN"
  | .error => "ERROR"

/-- The place of a level among the others. -/
def rank : Level → Nat
  | .trace => 5
  | .debug => 4
  | .info => 3
  | .warn => 2
  | .error => 1

/-- No two levels matter equally. -/
theorem rank_injective {a b : Level} (h : a.rank = b.rank) : a = b := by
  cases a <;> cases b <;> simp_all [rank]

end Level

/-- The value of a detail. -/
inductive Detail where
  /-- A text that is shown as it is. -/
  | shown (s : String)
  /-- A text that is quoted in a line. -/
  | quoted (s : String)
  | number (n : Nat)
  | flag (b : Bool)
  deriving DecidableEq, Repr

/-- The bare text of a detail. -/
def Detail.text : Detail → String
  | .shown s | .quoted s => s
  | .number n => toString n
  | .flag b => if b then "true" else "false"

/-- Something that is said about the work of the service. -/
structure Event where
  level : Level
  /-- The part of the service that says it. -/
  target : String
  message : String
  details : List (String × Detail) := []
  deriving DecidableEq, Repr

end Log
end Rulebook

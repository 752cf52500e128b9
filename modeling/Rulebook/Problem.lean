import Rulebook.Failure
import Rulebook.Json
import Rulebook.Log

/-!
# Problems and Envelopes

What can become of a request about rules when it does not succeed, and how a
caller is told. A failure of the store is logged and not shown: the caller reads
one and the same sentence whatever went wrong.

## Main definitions

* `Problem`: Why a request about rules was not carried out.
* `Problem.status`, `Problem.summary`, `Problem.full`: Its code and wording.
* `Envelope`: The bodies of answers that are not rules.
* `Problem.envelope`, `Problem.events`: What a caller and what the log is told.
-/

namespace Rulebook

/-- Why a request about rules was not carried out. -/
inductive Problem where
  /-- What was sent is no draft of a rule. -/
  | invalid (message : String)
  /-- There is no rule with the identifier. -/
  | notFound
  /-- The store failed. -/
  | store (failure : Failure)
  deriving DecidableEq, Repr

/-- The bodies of answers that are not rules. -/
inductive Envelope where
  | health (status version : String) (uptime : Nat)
  | ready (reachable : Bool) (storage : String)
  | message (text : String)
  | error (text code : String)
  deriving DecidableEq, Repr

namespace Envelope

/-- An envelope as a value. -/
def toJson : Envelope → Json
  | .health status version uptime =>
    .object [("status", .text status), ("version", .text version), ("uptime_secs", .int uptime)]
  | .ready reachable storage => .object [("ready", .bool reachable), ("storage", .text storage)]
  | .message text => .object [("message", .text text)]
  | .error text code => .object [("error", .text text), ("code", .text code)]

/-- The envelope of a request that is refused for what it holds. -/
def badRequest (text : String) : Envelope :=
  .error text "BAD_REQUEST"

/-- The envelope of a request for something that is not there. -/
def notFound (text : String) : Envelope :=
  .error text "NOT_FOUND"

/-- The envelope of a request that could not be carried out. -/
def internalError (text : String) : Envelope :=
  .error text "INTERNAL_ERROR"

end Envelope

namespace Problem

/-- The status code of a problem. -/
def status : Problem → Nat
  | .invalid _ => 400
  | .notFound => 404
  | .store _ => 500

/-- A problem in one line, by its outermost text. -/
def summary : Problem → String
  | .invalid message => "invalid request: " ++ message
  | .notFound => "Rule not found"
  | .store failure => failure.text

/-- A problem in one line, with everything beneath it. -/
def full : Problem → String
  | .store failure => failure.full
  | problem => problem.summary

/-- What a caller is told. -/
def envelope : Problem → Envelope
  | .invalid message => .badRequest message
  | .notFound => .notFound (summary .notFound)
  | .store _ => .internalError "Internal server error"

/-- What the log is told. -/
def events : Problem → List Log.Event
  | .store failure =>
    [{ level := .error
       target := "expense_rules::api::error"
       message := "Storage operation failed"
       details := [("error", .shown failure.text)] }]
  | _ => []

end Problem
end Rulebook

import Rulebook.Http.Message
import Rulebook.Record.Printer
import Rulebook.Service.Payload
import Rulebook.Tally

/-!
# Work on Rules

A request about rules goes through four steps. Its payload is looked at, and
refused or turned into one call to the store, with the time and the identifier
that were current when it came in. The call is answered. The outcome is counted.
The caller is told. Each step hands the next one a value, so several requests
may be under way at once, each between two of its steps.

## Main definitions

* `Inquiry`: What a request about rules asks for.
* `Moment`: What is current when a request comes in.
* `Inquiry.call`: The call that an inquiry comes to, unless it is refused.
* `Success`, `conclude`: What the reply to a call amounts to.
* `Success.response`, `Success.events`: What the caller and the log are told.
* `Problem.response`: How a problem is answered.

## Theorems

* `operation_of_call`: An inquiry is counted as what its call asks for.
* `conclude_error`: A failed call is a problem of the store.
-/

namespace Rulebook
namespace Service

open Http (Request Response)

/-- What is current when a request comes in. -/
structure Moment where
  now : Instant
  /-- The identifier that a new rule gets. -/
  newId : RuleId
  /-- How many seconds the service has been up. -/
  uptime : Nat
  deriving DecidableEq

/-- What a request about rules asks for. -/
inductive Inquiry where
  | list
  | create
  | get (id : RuleId)
  | update (id : RuleId)
  | delete (id : RuleId)
  deriving DecidableEq

/-- The operation under which an inquiry is counted. -/
def Inquiry.operation : Inquiry → Operation
  | .list => .list
  | .create => .create
  | .get _ => .get
  | .update _ => .update
  | .delete _ => .delete

/-- The call that an inquiry comes to, unless its payload is refused. -/
def Inquiry.call (request : Request) (moment : Moment) : Inquiry → Except Problem Call
  | .list => .ok .list
  | .create => (payload request).map fun fields =>
    .create (Rule.create moment.newId fields moment.now)
  | .get id => .ok (.get id)
  | .update id => (payload request).map fun fields => .update id fields moment.now
  | .delete id => .ok (.delete id)

/-- An inquiry is counted as what its call asks for. -/
theorem operation_of_call {request : Request} {moment : Moment} {inquiry : Inquiry} {call : Call}
    (h : inquiry.call request moment = .ok call) : call.operation = inquiry.operation := by
  cases inquiry with
  | create | update =>
    -- Which fields the payload holds makes no difference.
    cases taken : payload request with
    | error problem => simp only [Inquiry.call, taken, Except.map, reduceCtorEq] at h
    | ok fields =>
      simp only [Inquiry.call, taken, Except.map, Except.ok.injEq] at h
      rw [← h]
      rfl
  | list | get | delete =>
    simp only [Inquiry.call, Except.ok.injEq] at h
    rw [← h]
    rfl

/-- What was done. -/
inductive Success where
  | listed (rules : List Rule)
  | created (rule : Rule)
  | fetched (rule : Rule)
  | updated (rule : Rule)
  | deleted (id : RuleId)
  deriving DecidableEq

/-- What the reply to a call amounts to. A rule that is not there is a problem. -/
def conclude : (call : Call) → Except Failure call.Reply → Except Problem Success
  | _, .error failure => .error (.store failure)
  | .list, .ok rules => .ok (.listed rules)
  | .create rule, .ok () => .ok (.created rule)
  | .get _, .ok (some rule) => .ok (.fetched rule)
  | .get _, .ok none => .error .notFound
  | .update .., .ok (some rule) => .ok (.updated rule)
  | .update .., .ok none => .error .notFound
  | .delete id, .ok true => .ok (.deleted id)
  | .delete _, .ok false => .error .notFound

/-- A failed call is a problem of the store. -/
@[simp] theorem conclude_error (call : Call) (failure : Failure) :
    conclude call (.error failure) = .error (.store failure) := by
  cases call <;> rfl

/-- Where events about requests come from. -/
def routesTarget : String := "expense_rules::api::routes"

namespace Success

/-- What the caller is told. -/
def response : Success → Response
  | .listed rules => .ofJson 200 (.list (rules.map Rule.toJson))
  | .created rule => .ofJson 201 rule.toJson
  | .fetched rule | .updated rule => .ofJson 200 rule.toJson
  | .deleted _ => .ofJson 200 (Envelope.message "Rule deleted successfully").toJson

/-- What the log is told. -/
def events : Success → List Log.Event
  | .listed rules =>
    [{ level := .debug, target := routesTarget, message := "Listed rules"
       details := [("count", .number rules.length)] }]
  | .created rule =>
    [{ level := .info, target := routesTarget, message := "Rule created"
       details := [("rule_id", .shown rule.id.text), ("name", .shown rule.fields.name)] }]
  | .fetched _ => []
  | .updated rule =>
    [{ level := .info, target := routesTarget, message := "Rule updated"
       details := [("rule_id", .shown rule.id.text), ("is_active", .flag rule.fields.isActive)] }]
  | .deleted id =>
    [{ level := .info, target := routesTarget, message := "Rule deleted"
       details := [("rule_id", .shown id.text)] }]

end Success

/-- How a problem is answered. -/
def problemResponse (problem : Problem) : Response :=
  .ofJson problem.status problem.envelope.toJson

/-- How an outcome is answered. -/
def outcomeResponse : Except Problem Success → Response
  | .ok success => success.response
  | .error problem => problemResponse problem

/-- What the log is told of an outcome. -/
def outcomeEvents : Except Problem Success → List Log.Event
  | .ok success => success.events
  | .error problem => problem.events

end Service
end Rulebook

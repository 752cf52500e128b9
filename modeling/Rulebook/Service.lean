import Rulebook.Origins
import Rulebook.Service.Route
import Rulebook.Service.Rules

/-!
# The Service

Answers requests, one after the other. Between two requests the service is its
rules and its counts, and nothing else; what fails for the time being, and which
origins are let in, is given from outside.

## Main definitions

* `Service`: Rules and counts.
* `Service.carryOut`: Works on the rules.
* `Service.act`: Does what an action asks for.
* `Service.handle`: Answers a request.

## Theorems

* `service_act_health`, `service_act_metrics`, `service_ready`: Looking at the
  service changes nothing.
* `handle_options`: A page that asks first changes nothing.
-/

namespace Rulebook

open Http (Request Response)
open Text (octets)

/-- The state of the service between two requests. -/
structure Service where
  store : Store := {}
  tally : Tally := {}
  deriving DecidableEq

namespace Service

/-- The version that the service reports. -/
def version : String := "1.0.0"

/-- An answer, what the log is told, and the service afterwards. -/
structure Turn where
  response : Response
  events : List Log.Event
  service : Service

/-- An answer that changes nothing and is not worth an event. -/
def quiet (service : Service) (response : Response) : Turn :=
  { response, events := [], service }

/-- Counts an outcome and tells of it. -/
def settle (service : Service) (operation : Operation) (outcome : Except Problem Success) : Turn :=
  { response := outcomeResponse outcome
    events := outcomeEvents outcome
    service := { service with tally := service.tally.track operation outcome } }

/-- Works on the rules: one call at most, and one count. -/
def carryOut (service : Service) (outage : Outage) (moment : Moment) (request : Request)
    (inquiry : Inquiry) : Turn :=
  match inquiry.call request moment with
  | .error problem => service.settle inquiry.operation (.error problem)
  | .ok call =>
    let (reply, store) := service.store.runUnder outage call
    { service with store }.settle inquiry.operation (conclude call reply)

/-- The answer to a path that stands for no identifier. -/
def undecodable : Response :=
  .plain 400 "Invalid URL: Invalid UTF-8 in `id`"

/-- Works on one rule, if the path stands for an identifier. -/
def onRule (service : Service) (segment : Text.Octets) (work : RuleId → Turn) : Turn :=
  match ruleId? segment with
  | some id => work id
  | none => service.quiet undecodable

/-- Says whether the store is within reach. -/
def ready (service : Service) (outage : Outage) : Turn :=
  match outage.reach with
  | none => service.quiet (.ofJson 200 (Envelope.ready true Store.backend).toJson)
  | some failure =>
    { response := .ofJson 503 (Envelope.error "Storage not reachable" "NOT_READY").toJson
      events :=
        [{ level := .warn, target := routesTarget, message := "Storage not reachable"
           details := [("backend", .quoted Store.backend), ("error", .shown failure.text)] }]
      service }

/-- Does what an action asks for. -/
def act (service : Service) (outage : Outage) (moment : Moment) (request : Request) :
    Action → Turn
  | .health =>
    service.quiet (.ofJson 200 (Envelope.health "healthy" version moment.uptime).toJson)
  | .ready => service.ready outage
  | .metrics => service.quiet (.plain 200 (service.tally.exposition moment.uptime))
  | .list => service.carryOut outage moment request .list
  | .create => service.carryOut outage moment request .create
  | .get segment => service.onRule segment fun id =>
    service.carryOut outage moment request (.get id)
  | .update segment => service.onRule segment fun id =>
    service.carryOut outage moment request (.update id)
  | .delete segment => service.onRule segment fun id =>
    service.carryOut outage moment request (.delete id)

/-- Answers a request on a known path. Of an answer to a request for the head
    only the head is sent. -/
def onRoute (service : Service) (outage : Outage) (moment : Moment) (request : Request)
    (route : Route) : Turn :=
  match Method.ofName? request.method >>= route.action? with
  | none => service.quiet ((Response.bare 405).adding [route.allow])
  | some action =>
    let turn := service.act outage moment request action
    if request.method = "HEAD" then { turn with response := turn.response.withoutBody } else turn

/-- Answers a request, whatever its path. -/
def dispatch (service : Service) (outage : Outage) (moment : Moment) (request : Request) : Turn :=
  match Route.ofPath? request.path with
  | none => service.quiet (.bare 404)
  | some route => service.onRoute outage moment request route

/-- The answer to a page that asks before it acts. On a known path it names the
    methods that are taken there. -/
def preflight (origins : Origins) (request : Request) : Response :=
  let response := origins.preflight request
  match Route.ofPath? request.path with
  | some route => response.adding [route.allow]
  | none => response

/-- Answers a request. -/
def handle (service : Service) (origins : Origins) (outage : Outage) (moment : Moment)
    (request : Request) : Turn :=
  if request.method = "OPTIONS" then service.quiet (preflight origins request)
  else
    let turn := service.dispatch outage moment request
    { turn with response := origins.sign request turn.response }

/-- Asking how the service is changes nothing. -/
@[simp] theorem service_act_health (service : Service) (outage : Outage) (moment : Moment)
    (request : Request) : (service.act outage moment request .health).service = service :=
  rfl

/-- Asking for the counts changes nothing. -/
@[simp] theorem service_act_metrics (service : Service) (outage : Outage) (moment : Moment)
    (request : Request) : (service.act outage moment request .metrics).service = service :=
  rfl

/-- Asking whether the store is within reach changes nothing. -/
@[simp] theorem service_ready (service : Service) (outage : Outage) :
    (service.ready outage).service = service := by
  unfold ready
  split <;> rfl

/-- A page that asks before it acts changes nothing. -/
theorem handle_options (service : Service) (origins : Origins) (outage : Outage)
    (moment : Moment) {request : Request} (h : request.method = "OPTIONS") :
    (service.handle origins outage moment request).service = service := by
  simp [handle, h, quiet]

end Service
end Rulebook

import Rulebook.Proofs.Service.Accounting
import Rulebook.Proofs.Service.Grant
import Rulebook.Proofs.Service.Twins

/-!
# Who Answers

There are five kinds of paths that are known, and each takes some methods. Two tables
say so here, one of paths and one of methods, and a request is answered by a handler
exactly if there is a row for its path and a row for its method. A path is taken as it
was sent: with a slash more at its end it is another path, and one that is not known.

Who is not answered by a handler is told why. A path that is not known is not found. A
path that is known, asked for by a method that has no row, is answered by the list of the
methods that have one, and that list can be checked by trying them: it names those that
are not answered in this way. To try is safe, for neither answer leaves a trace.

Where a thing can be had its head can be had too, and that is the same work: the one
answer is the other without its body.

## Main definitions

* `offers`: Which method asks for what on a route.

## Theorems

* `action?_eq_some_iff`: What is done about a request is what the tables say.
* `status_act_ne`: A handler never refuses a method.
* `handle_unknown`, `handle_untaken`: What is answered where there is no row.
* `handle_head`: The head of a thing is its answer without the body.
* `routing_law`: Who answers a request.
-/

namespace Rulebook

namespace Service

open Http (Request Response)
open Text (Octets octets)

/-- Which method asks for what on a route. -/
def offers : Route → List (String × Action)
  | .health => [("GET", .health), ("HEAD", .health)]
  | .ready => [("GET", .ready), ("HEAD", .ready)]
  | .metrics => [("GET", .metrics), ("HEAD", .metrics)]
  | .rules => [("GET", .list), ("HEAD", .list), ("POST", .create)]
  | .rule segment =>
    [("GET", .get segment), ("HEAD", .get segment), ("PUT", .update segment),
      ("DELETE", .delete segment)]

/-! ## Paths -/

-- A path that leads nowhere is not known.
theorem ofPath?_eq_none {path : Octets} (astray : ∀ route, ¬ Leads path route) :
    Route.ofPath? path = none :=
  Option.eq_none_iff_forall_ne_some.2 fun route known => astray route (ofPath?_eq_some_iff.1 known)

/-! ## Methods -/

/-- What a method asks for on a route is what the table says. -/
theorem mem_offers_iff {route : Route} {name : String} {action : Action} :
    (name, action) ∈ offers route ↔ (Method.ofName? name >>= route.action?) = some action := by
  simp only [Option.bind_eq_bind, Option.bind_eq_some_iff, ofName?_eq_some_iff]
  constructor
  · intro offered
    cases route <;>
      simp only [offers, List.mem_cons, Prod.mk.injEq, List.not_mem_nil, or_false] at offered
    case rules =>
      rcases offered with ⟨rfl, rfl⟩ | ⟨rfl, rfl⟩ | ⟨rfl, rfl⟩
      exacts [⟨.get, by decide, rfl⟩, ⟨.get, by decide, rfl⟩, ⟨.post, by decide, rfl⟩]
    case rule segment =>
      rcases offered with ⟨rfl, rfl⟩ | ⟨rfl, rfl⟩ | ⟨rfl, rfl⟩ | ⟨rfl, rfl⟩
      exacts [⟨.get, by decide, rfl⟩, ⟨.get, by decide, rfl⟩, ⟨.put, by decide, rfl⟩,
        ⟨.delete, by decide, rfl⟩]
    all_goals
      rcases offered with ⟨rfl, rfl⟩ | ⟨rfl, rfl⟩
      exacts [⟨.get, by decide, rfl⟩, ⟨.get, by decide, rfl⟩]
  · rintro ⟨method, named, asked⟩
    -- A method that is taken has a row under each of its names.
    cases route <;> cases method <;>
      simp only [Route.action?, reduceCtorEq, Option.some.injEq] at asked <;>
      subst asked <;>
      simp only [Method.names, List.mem_cons, List.not_mem_nil, or_false] at named <;>
      simp only [offers, named, List.mem_cons, Prod.mk.injEq, reduceCtorEq, and_true, and_false,
        List.not_mem_nil, or_false, false_or]

/-- What is done about a request is what the tables say. -/
theorem action?_eq_some_iff {request : Request} {action : Action} :
    action? request = some action ↔
      ∃ route, Leads request.path route ∧ (request.method, action) ∈ offers route := by
  simp only [action?, Option.bind_eq_bind, Option.bind_eq_some_iff, ofPath?_eq_some_iff,
    mem_offers_iff]

/-- The methods that a route takes. -/
def taken (route : Route) : List String :=
  (offers route).map (·.1)

theorem mem_taken_iff {route : Route} {name : String} :
    name ∈ taken route ↔ ∃ action, (name, action) ∈ offers route := by
  simp only [taken, List.mem_map, Prod.exists, exists_and_right, exists_eq_right]

-- Between the commas of the list stand the methods, for none of them has a comma in it.
theorem splitOn_allow (route : Route) :
    route.allow.2.splitOn 0x2C = (taken route).map octets := by
  cases route with
  | rule segment =>
    -- The methods are the same for all rules.
    change (Route.rule []).allow.2.splitOn 0x2C = (taken (.rule [])).map octets
    decide +kernel
  | _ => decide +kernel

/-! ## Handlers -/

theorem status_carryOut_ne (service : Service) (outage : Outage) (moment : Moment)
    (request : Request) (inquiry : Inquiry) :
    (service.carryOut outage moment request inquiry).response.status ≠ 405 := by
  rw [carryOut_eq]
  simp only [settle]
  cases service.outcome outage moment request inquiry with
  | ok success =>
    have below : (outcomeResponse (.ok success)).status < 300 := (status_success success).2
    omega
  | error problem =>
    change problem.status ≠ 405
    cases problem <;> simp only [Problem.status, ne_eq, Nat.reduceEqDiff, not_false_eq_true]

/-- A handler never refuses a method. -/
theorem status_act_ne (service : Service) (outage : Outage) (moment : Moment) (request : Request)
    (action : Action) : (service.act outage moment request action).response.status ≠ 405 := by
  cases action with
  | health | metrics => exact (by decide : 200 ≠ 405)
  | ready =>
    simp only [act, ready]
    cases outage.reach with
    | none => exact (by decide : 200 ≠ 405)
    | some failure => exact (by decide : 503 ≠ 405)
  | list | create => exact status_carryOut_ne _ _ _ _ _
  | get segment | update segment | delete segment =>
    simp only [act, onRule]
    cases ruleId? segment with
    | none => exact (by decide : 400 ≠ 405)
    | some id => exact status_carryOut_ne _ _ _ _ _

section

variable (service : Service) (origins : Origins) (outage : Outage) (moment : Moment)

/-- A request on a path that is not known is not found, and leaves no trace. -/
theorem handle_unknown {request : Request} (acts : request.method ≠ "OPTIONS")
    (astray : ∀ route, ¬ Leads request.path route) :
    service.handle origins outage moment request =
      service.quiet (origins.sign request (.bare 404)) := by
  have unknown := ofPath?_eq_none astray
  have nothing : action? request = none := by
    simp only [action?, unknown, Option.bind_eq_bind, Option.bind_none]
  rw [handle_of_action?_none nothing, idle, if_neg acts, unknown]

/-- A method that a known path does not take is answered by those that it takes. -/
theorem handle_untaken {request : Request} (acts : request.method ≠ "OPTIONS") {route : Route}
    (leads : Leads request.path route)
    (untaken : ∀ action, (request.method, action) ∉ offers route) :
    service.handle origins outage moment request =
      service.quiet (origins.sign request ((Response.bare 405).adding [route.allow])) := by
  have known := ofPath?_eq_some_iff.2 leads
  have nothing : action? request = none := by
    refine Option.eq_none_iff_forall_ne_some.2 fun action found => untaken action ?_
    rcases action?_eq_some_iff.1 found with ⟨other, leadsOther, offered⟩
    obtain rfl : other = route :=
      Option.some.inj ((ofPath?_eq_some_iff.2 leadsOther).symm.trans known)
    exact offered
  rw [handle_of_action?_none nothing, idle, if_neg acts, known]

/-- The list of the methods that a route takes names those that it does not refuse. -/
theorem mem_taken_iff_status_ne {request : Request} {route : Route}
    (leads : Leads request.path route) (name : String) :
    name ∈ taken route ↔ name ≠ "OPTIONS" ∧
      (service.handle origins outage moment { request with method := name }).response.status ≠
        405 := by
  rw [mem_taken_iff]
  constructor
  · rintro ⟨action, offered⟩
    refine ⟨?_, ?_⟩
    · rintro rfl
      exact absurd offered (by cases route <;> simp [offers])
    · have found : action? { request with method := name } = some action :=
        action?_eq_some_iff.2 ⟨route, leads, offered⟩
      rw [handle_of_action? found]
      simp only [status_sent]
      exact status_act_ne _ _ _ _ _
  · rintro ⟨acts, status⟩
    by_contra untaken
    refine status ?_
    have named : Leads { request with method := name }.path route := leads
    rw [handle_untaken service origins outage moment acts named (not_exists.1 untaken)]
    rfl

/-- To ask for the head of a thing is the same work as to ask for the thing, and the
    answer is the same without its body. -/
theorem handle_head (request : Request) :
    service.handle origins outage moment { request with method := "HEAD" } =
      let turn := service.handle origins outage moment { request with method := "GET" }
      { turn with response := turn.response.withoutBody } := by
  have same : action? { request with method := "HEAD" } =
      action? { request with method := "GET" } := by
    have names : Method.ofName? "HEAD" = Method.ofName? "GET" := by decide
    simp only [action?, names]
  cases found : action? { request with method := "GET" } with
  | none =>
    rw [handle_of_action?_none found, handle_of_action?_none (same.trans found)]
    unfold idle
    rw [if_neg (by decide : ¬ "HEAD" = "OPTIONS"), if_neg (by decide : ¬ "GET" = "OPTIONS")]
    -- What is answered where nothing is done has no body that could be left out.
    cases Route.ofPath? request.path <;> rfl
  | some action =>
    have work := act_congr (a := { request with method := "HEAD" })
      (b := { request with method := "GET" }) (payload_congr rfl rfl) service outage moment action
    rw [handle_of_action? found, handle_of_action? (same.trans found), work]
    rfl

end

/-- Whatever is kept and whatever fails: a request is handed to a handler exactly if its
    path leads to a route and its method is offered there, and then the handler answers.

    Any other request is turned away, unless it comes from a page that asks before it
    acts. On a known path it is told a list of methods, which are those that are not turned
    away there. On a path that is not known nothing is found, and nothing is shown. Neither
    answer changes the rules or the counts, and neither is logged.

    The answer to a request for the head of a thing is that to a request for the thing,
    without its body. -/
theorem routing_law (service : Service) (origins : Origins) (outage : Outage) (moment : Moment)
    (request : Request) :
    let answer (method : String) : Turn :=
      service.handle origins outage moment { request with method }
    let turn := answer request.method
    (∀ action, action? request = some action ↔
      ∃ route, Leads request.path route ∧ (request.method, action) ∈ offers route) ∧
    (∀ route action, Leads request.path route → (request.method, action) ∈ offers route →
      let done := service.act outage moment request action
      turn = { done with response := sent origins request done.response }) ∧
    (request.method ≠ "OPTIONS" →
      (∀ route, Leads request.path route → (∀ action, (request.method, action) ∉ offers route) →
        turn.response.status = 405 ∧ turn.service = service ∧ turn.events = [] ∧
        ∃ (list : Octets) (names : List String),
          turn.response.headers.values "allow" = [list] ∧
          list.splitOn 0x2C = names.map octets ∧
          ∀ name, name ∈ names ↔
            name ≠ "OPTIONS" ∧ (answer name).response.status ≠ 405) ∧
      ((∀ route, ¬ Leads request.path route) →
        turn.response.status = 404 ∧ turn.response.body = "" ∧
        turn.service = service ∧ turn.events = [])) ∧
    let whole := answer "GET"
    let head := answer "HEAD"
    head.response.status = whole.response.status ∧
      head.response.headers = whole.response.headers ∧ head.response.body = "" ∧
      head.events = whole.events ∧ head.service = whole.service := by
  intro answer turn
  refine ⟨fun action => action?_eq_some_iff, fun route action leads offered => ?_,
    fun acts => ⟨fun route leads untaken => ?_, fun astray => ?_⟩, ?_⟩
  · exact handle_of_action? (action?_eq_some_iff.2 ⟨route, leads, offered⟩) service origins outage
      moment
  · have refused : turn =
        service.quiet (origins.sign request ((Response.bare 405).adding [route.allow])) :=
      handle_untaken service origins outage moment acts leads untaken
    have allow : turn.response.headers.values "allow" = [route.allow.2] := by
      rw [refused]
      simp only [quiet]
      rw [values_sign (by decide), values_pass, if_neg (by decide), List.append_nil]
      rfl
    refine ⟨?_, ?_, ?_, route.allow.2, taken route, allow, splitOn_allow route, fun name => ?_⟩
    · rw [refused]
      rfl
    · rw [refused]
      rfl
    · rw [refused]
      rfl
    · exact mem_taken_iff_status_ne service origins outage moment leads name
  · have nothing : turn = service.quiet (origins.sign request (.bare 404)) :=
      handle_unknown service origins outage moment acts astray
    rw [nothing]
    exact ⟨rfl, rfl, rfl, rfl⟩
  · intro whole head
    have same : head = { whole with response := whole.response.withoutBody } :=
      handle_head service origins outage moment request
    rw [same]
    exact ⟨rfl, rfl, rfl, rfl, rfl⟩

-- A method of somebody's own on the path of the rules, and that path with a slash more.
theorem routing_law_extension :
    let now : Instant := ⟨0, 0, by decide, by decide, by decide⟩
    let request (method path : String) : Request :=
      { method, path := octets path, headers := [], body := [] }
    let turn (method path : String) : Turn :=
      ({} : Service).handle ⟨[]⟩ Outage.none ⟨now, ⟨"a"⟩, 0⟩ (request method path)
    Leads (octets "/api/rules") .rules ∧
      (∀ action, ("PURGE", action) ∉ offers .rules) ∧
      (turn "PURGE" "/api/rules").response.status = 405 ∧
      (turn "PURGE" "/api/rules").response.headers.values "allow" = [octets "GET,HEAD,POST"] ∧
      (∀ route, ¬ Leads (octets "/api/rules/") route) ∧
      (turn "GET" "/api/rules/").response.status = 404 := by
  intro now request turn
  have law (method path : String) :=
    (routing_law {} ⟨[]⟩ Outage.none ⟨now, ⟨"a"⟩, 0⟩ (request method path)).2.2.1
  have untaken : ∀ action, ("PURGE", action) ∉ offers .rules := by
    intro action
    simp only [offers, List.mem_cons, Prod.mk.injEq, String.reduceEq, false_and, List.not_mem_nil,
      or_false, not_false_eq_true]
  have astray : ∀ route, ¬ Leads (octets "/api/rules/") route := by
    intro route leads
    have known := ofPath?_eq_some_iff.2 leads
    have unknown : Route.ofPath? (octets "/api/rules/") = none := by decide +kernel
    rw [unknown] at known
    exact absurd known (by simp only [reduceCtorEq, not_false_eq_true])
  exact ⟨.rules, untaken, ((law "PURGE" "/api/rules" (by decide)).1 _ .rules untaken).1,
    by decide +kernel, astray, ((law "GET" "/api/rules/" (by decide)).2 astray).1⟩

end Service

end Rulebook

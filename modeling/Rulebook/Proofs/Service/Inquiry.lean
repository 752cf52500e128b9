import Rulebook.Service

/-!
# What a Request Asks

A request works on the rules only if its path and its method are known together
and, where the path is that of a single rule, its last part stands for an
identifier. Everything else the service answers without looking at the rules.

`inquiry?` says which of the two it is, and for which inquiry, from the request
alone. `handle_of_inquiry?` and `service_handle_of_inquiry?_none` then split the
service along that line once, so that no later argument has to walk through
methods and routes again.

## Main definitions

* `action?`: The action that a request asks for.
* `Action.inquiry?`: What an action asks about rules.
* `inquiry?`: What a request asks about rules.
* `pathId?`: The identifier that a path stands for.
* `Leads`: Which path leads to which route.
* `Asks`: How an inquiry is put, said without the routes.
* `sent`: What is sent of an answer.
* `idle`: What is answered where nothing is done.

## Theorems

* `ofName?_eq_some_iff`: A method is asked with exactly by its names.
* `segment?_eq_some_iff`: What the path of a single rule looks like.
* `ofPath?_eq_some_iff`: The known paths are those that lead to a route.
* `handle_of_action?`: A request for an action is answered by that action.
* `handle_of_action?_none`: Any other request is answered, and nothing is done.
* `handle_of_inquiry?`: A request about rules is carried out.
* `service_handle_of_inquiry?_none`: Any other request leaves the service as it
  is.
* `inquiry?_eq_some_iff`, `asks_unique`: Which requests ask what, and that they
  ask nothing else.
-/

namespace Rulebook

namespace Service

open Http (Request Response)
open Text (Octets octets)

/-- The action that a request asks for. -/
def action? (request : Request) : Option Action := do
  let route ← Route.ofPath? request.path
  let method ← Method.ofName? request.method
  route.action? method

/-- What an action asks about rules, if it does and names one where it has to. -/
def Action.inquiry? : Action → Option Inquiry
  | .health | .ready | .metrics => none
  | .list => some .list
  | .create => some .create
  | .get segment => (ruleId? segment).map .get
  | .update segment => (ruleId? segment).map .update
  | .delete segment => (ruleId? segment).map .delete

/-- What a request asks about rules. -/
def inquiry? (request : Request) : Option Inquiry :=
  action? request >>= Action.inquiry?

/-- The identifier that a path stands for, if it is the path of a rule. -/
def pathId? (path : Octets) : Option RuleId :=
  Route.segment? path >>= ruleId?

/-- Which path leads to which route. -/
inductive Leads : Octets → Route → Prop
  | health : Leads (octets "/api/health") .health
  | ready : Leads (octets "/api/ready") .ready
  | rules : Leads (octets "/api/rules") .rules
  | metrics : Leads (octets "/metrics") .metrics
  /-- Behind the path of the rules and a slash stands one part, which is not empty. -/
  | rule {segment : Octets} (filled : segment ≠ []) (single : 0x2F ∉ segment) :
    Leads (octets "/api/rules/" ++ segment) (.rule segment)

/-- How an inquiry is put: by a method of its own, on the path of the rules or
    on that of a rule. -/
def Asks (request : Request) : Inquiry → Prop
  | .list => request.path = Route.rulesPath ∧ request.method ∈ Method.get.names
  | .create => request.path = Route.rulesPath ∧ request.method = "POST"
  | .get id => pathId? request.path = some id ∧ request.method ∈ Method.get.names
  | .update id => pathId? request.path = some id ∧ request.method = "PUT"
  | .delete id => pathId? request.path = some id ∧ request.method = "DELETE"

/-- What is sent of an answer: of an answer to a request for the head only the
    head, and in any case what is granted to the page that asked. -/
def sent (origins : Origins) (request : Request) (response : Response) : Response :=
  origins.sign request (if request.method = "HEAD" then response.withoutBody else response)

/-- What is answered to a request that asks for nothing that is known: it asks
    before it acts, its path is not known, or its method is not taken there. -/
def idle (origins : Origins) (request : Request) : Response :=
  if request.method = "OPTIONS" then preflight origins request
  else
    origins.sign request <|
      match Route.ofPath? request.path with
      | none => .bare 404
      | some route => (Response.bare 405).adding [route.allow]

theorem ofName?_eq_some_iff {name : String} {method : Method} :
    Method.ofName? name = some method ↔ name ∈ method.names := by
  constructor
  · intro h
    have hname := List.find?_some h
    simpa only [List.contains_iff_mem] using hname
  · exact Method.ofName?_of_mem_names

/-- The last part of the path of a rule is not empty, and a single one. -/
theorem segment?_eq_some_iff {path segment : Octets} :
    Route.segment? path = some segment ↔
      segment ≠ [] ∧ 0x2F ∉ segment ∧ path = octets "/api/rules/" ++ segment := by
  have start : Route.rulesPath ++ octets "/" = octets "/api/rules/" := rfl
  simp only [Route.segment?, start, Option.ite_none_right_eq_some, Option.some.injEq,
    Bool.and_eq_true, Bool.not_eq_true', List.isPrefixOf_iff_prefix]
  constructor
  · rintro ⟨⟨⟨⟨rest, rfl⟩, filled⟩, single⟩, rfl⟩
    simp only [List.drop_left] at filled single ⊢
    refine ⟨?_, ?_, trivial⟩
    · rintro rfl
      exact absurd filled (by decide)
    · rw [← List.contains_iff_mem, single]
      decide
  · rintro ⟨filled, single, rfl⟩
    simp only [List.drop_left, List.prefix_append, true_and, and_true]
    refine ⟨List.isEmpty_eq_false_iff.2 filled, ?_⟩
    rwa [← Bool.not_eq_true, List.contains_iff_mem]

/-- The path of a single rule is no other known path. -/
theorem ofPath?_of_segment? {path segment : Octets}
    (h : Route.segment? path = some segment) : Route.ofPath? path = some (.rule segment) := by
  have hne : ∀ other : Octets, Route.segment? other = none → path ≠ other := by
    intro other hother heq
    rw [heq, hother] at h
    exact absurd h (by simp only [reduceCtorEq, not_false_eq_true])
  unfold Route.ofPath?
  rw [if_neg (hne _ rfl), if_neg (hne _ rfl), if_neg (hne _ rfl), if_neg (hne _ rfl), h]
  rfl

/-- The known paths are those that lead to a route. -/
theorem ofPath?_eq_some_iff {path : Octets} {route : Route} :
    Route.ofPath? path = some route ↔ Leads path route := by
  constructor
  · intro h
    unfold Route.ofPath? at h
    by_cases health : path = octets "/api/health"
    · rw [if_pos health] at h
      obtain rfl := Option.some.inj h
      exact health ▸ .health
    rw [if_neg health] at h
    by_cases ready : path = octets "/api/ready"
    · rw [if_pos ready] at h
      obtain rfl := Option.some.inj h
      exact ready ▸ .ready
    rw [if_neg ready] at h
    by_cases rules : path = Route.rulesPath
    · rw [if_pos rules] at h
      obtain rfl := Option.some.inj h
      exact rules ▸ .rules
    rw [if_neg rules] at h
    by_cases metrics : path = octets "/metrics"
    · rw [if_pos metrics] at h
      obtain rfl := Option.some.inj h
      exact metrics ▸ .metrics
    rw [if_neg metrics] at h
    rcases Option.map_eq_some_iff.1 h with ⟨segment, found, rfl⟩
    rcases segment?_eq_some_iff.1 found with ⟨filled, single, rfl⟩
    exact .rule filled single
  · intro leads
    cases leads with
    | health | ready | rules | metrics => rfl
    | rule filled single =>
      exact ofPath?_of_segment? (segment?_eq_some_iff.2 ⟨filled, single, rfl⟩)

-- On the path of the rules there are two things to ask, and each has a method.
theorem cases_of_rules {method : Method} {inquiry : Inquiry}
    (h : (Route.rules.action? method >>= Action.inquiry?) = some inquiry) :
    (method = .get ∧ inquiry = .list) ∨ (method = .post ∧ inquiry = .create) := by
  cases method with
  | get => exact .inl ⟨rfl, (Option.some.inj h).symm⟩
  | post => exact .inr ⟨rfl, (Option.some.inj h).symm⟩
  | put | delete => cases h

-- On the path of a rule there are three, if it stands for an identifier.
theorem cases_of_rule {segment : Octets} {method : Method} {inquiry : Inquiry}
    (h : ((Route.rule segment).action? method >>= Action.inquiry?) = some inquiry) :
    ∃ id, ruleId? segment = some id ∧ ((method = .get ∧ inquiry = .get id) ∨
      (method = .put ∧ inquiry = .update id) ∨ (method = .delete ∧ inquiry = .delete id)) := by
  cases method with
  | get =>
    rcases Option.map_eq_some_iff.1 h with ⟨id, named, rfl⟩
    exact ⟨id, named, .inl ⟨rfl, rfl⟩⟩
  | post => cases h
  | put =>
    rcases Option.map_eq_some_iff.1 h with ⟨id, named, rfl⟩
    exact ⟨id, named, .inr (.inl ⟨rfl, rfl⟩)⟩
  | delete =>
    rcases Option.map_eq_some_iff.1 h with ⟨id, named, rfl⟩
    exact ⟨id, named, .inr (.inr ⟨rfl, rfl⟩)⟩

-- On the other paths there is nothing to ask about rules.
theorem not_of_other {route : Route} (other : route ∈ [.health, .ready, .metrics])
    (method : Method) : (route.action? method >>= Action.inquiry?) = none := by
  simp only [List.mem_cons, List.not_mem_nil, or_false] at other
  rcases other with rfl | rfl | rfl <;> cases method <;> rfl

-- What is found to be asked is asked.
theorem asks_of_inquiry? {request : Request} {inquiry : Inquiry}
    (h : inquiry? request = some inquiry) : Asks request inquiry := by
  simp only [inquiry?, action?, Option.bind_eq_bind, Option.bind_assoc,
    Option.bind_eq_some_iff] at h
  rcases h with ⟨route, hroute, method, hmethod, asked⟩
  rw [ofName?_eq_some_iff] at hmethod
  rw [← Option.bind_eq_some_iff] at asked
  have leads := ofPath?_eq_some_iff.1 hroute
  generalize hpath : request.path = path at leads
  cases leads with
  | health | ready | metrics =>
    exact absurd (asked.symm.trans (not_of_other (by decide) method)) (Option.some_ne_none inquiry)
  | rules =>
    rcases cases_of_rules asked with ⟨rfl, rfl⟩ | ⟨rfl, rfl⟩
    · exact ⟨hpath, hmethod⟩
    · exact ⟨hpath, List.mem_singleton.1 hmethod⟩
  | @rule segment filled single =>
    rcases cases_of_rule asked with ⟨id, named, what⟩
    have about : pathId? request.path = some id := by
      rw [pathId?, hpath, segment?_eq_some_iff.2 ⟨filled, single, rfl⟩]
      exact named
    rcases what with ⟨rfl, rfl⟩ | ⟨rfl, rfl⟩ | ⟨rfl, rfl⟩
    · exact ⟨about, hmethod⟩
    · exact ⟨about, List.mem_singleton.1 hmethod⟩
    · exact ⟨about, List.mem_singleton.1 hmethod⟩

-- On the path of the rules the method alone is left to decide.
theorem inquiry?_rules {request : Request} {method : Method}
    (hpath : request.path = Route.rulesPath) (hmethod : request.method ∈ method.names) :
    inquiry? request = (Route.rules.action? method >>= Action.inquiry?) := by
  have hroute : Route.ofPath? request.path = some .rules := by
    rw [hpath]
    rfl
  simp only [inquiry?, action?, hroute, ofName?_eq_some_iff.2 hmethod, Option.bind_eq_bind,
    Option.bind_some]

-- So it is on the path of a rule.
theorem inquiry?_rule {request : Request} {method : Method} {id : RuleId}
    (hpath : pathId? request.path = some id) (hmethod : request.method ∈ method.names) :
    ∃ segment, ruleId? segment = some id ∧
      inquiry? request = ((Route.rule segment).action? method >>= Action.inquiry?) := by
  simp only [pathId?, Option.bind_eq_bind, Option.bind_eq_some_iff] at hpath
  rcases hpath with ⟨segment, hsegment, hid⟩
  refine ⟨segment, hid, ?_⟩
  simp only [inquiry?, action?, ofPath?_of_segment? hsegment,
    ofName?_eq_some_iff.2 hmethod, Option.bind_eq_bind, Option.bind_some]

-- What is asked is found to be asked.
theorem inquiry?_of_asks {request : Request} {inquiry : Inquiry} (h : Asks request inquiry) :
    inquiry? request = some inquiry := by
  cases inquiry with
  | list =>
    rw [inquiry?_rules h.1 h.2]
    rfl
  | create =>
    have hmethod : request.method ∈ Method.post.names := List.mem_singleton.2 h.2
    rw [inquiry?_rules h.1 hmethod]
    rfl
  | get id =>
    rcases inquiry?_rule h.1 h.2 with ⟨segment, hid, heq⟩
    rw [heq]
    simp only [Route.action?, Action.inquiry?, Option.bind_eq_bind, Option.bind_some, hid,
      Option.map_some]
  | update id =>
    have hmethod : request.method ∈ Method.put.names := List.mem_singleton.2 h.2
    rcases inquiry?_rule h.1 hmethod with ⟨segment, hid, heq⟩
    rw [heq]
    simp only [Route.action?, Action.inquiry?, Option.bind_eq_bind, Option.bind_some, hid,
      Option.map_some]
  | delete id =>
    have hmethod : request.method ∈ Method.delete.names := List.mem_singleton.2 h.2
    rcases inquiry?_rule h.1 hmethod with ⟨segment, hid, heq⟩
    rw [heq]
    simp only [Route.action?, Action.inquiry?, Option.bind_eq_bind, Option.bind_some, hid,
      Option.map_some]

/-- The route of a request and the method it names decide what it asks. -/
theorem inquiry?_eq_some_iff {request : Request} {inquiry : Inquiry} :
    inquiry? request = some inquiry ↔ Asks request inquiry :=
  ⟨asks_of_inquiry?, inquiry?_of_asks⟩

/-- A request asks one thing at most. -/
theorem asks_unique {request : Request} {a b : Inquiry} (ha : Asks request a)
    (hb : Asks request b) : a = b :=
  Option.some.inj ((inquiry?_of_asks ha).symm.trans (inquiry?_of_asks hb))

-- What is found to ask nothing asks nothing.
theorem not_asks_of_inquiry?_none {request : Request} (h : inquiry? request = none)
    (inquiry : Inquiry) : ¬ Asks request inquiry := by
  intro asks
  rw [inquiry?_of_asks asks] at h
  exact absurd h (by simp only [reduceCtorEq, not_false_eq_true])

/-- A request for an action is answered by that action. -/
theorem handle_of_action? {request : Request} {action : Action}
    (h : action? request = some action) (service : Service) (origins : Origins)
    (outage : Outage) (moment : Moment) :
    service.handle origins outage moment request =
      { service.act outage moment request action with
        response := sent origins request (service.act outage moment request action).response } := by
  simp only [action?, Option.bind_eq_bind, Option.bind_eq_some_iff] at h
  rcases h with ⟨route, hroute, method, hmethod, haction⟩
  -- A page that only asks first names no method that anything is done with.
  have hoptions : request.method ≠ "OPTIONS" := by
    intro heq
    rw [heq] at hmethod
    exact absurd hmethod (by cases method <;> decide)
  have hbind : (Method.ofName? request.method >>= route.action?) = some action := by
    rw [hmethod]
    exact haction
  unfold handle
  rw [if_neg hoptions]
  unfold dispatch
  rw [hroute]
  simp only [onRoute, hbind, sent]
  by_cases hhead : request.method = "HEAD"
  · rw [if_pos hhead, if_pos hhead]
  · rw [if_neg hhead, if_neg hhead]

/-- A request for nothing that is known is answered from the request alone, and
    nothing is done. -/
theorem handle_of_action?_none {request : Request} (h : action? request = none)
    (service : Service) (origins : Origins) (outage : Outage) (moment : Moment) :
    service.handle origins outage moment request = service.quiet (idle origins request) := by
  unfold handle idle
  by_cases hoptions : request.method = "OPTIONS"
  · rw [if_pos hoptions, if_pos hoptions]
  · rw [if_neg hoptions, if_neg hoptions]
    unfold dispatch
    cases hroute : Route.ofPath? request.path with
    | none => rfl
    | some route =>
      have hbind : (Method.ofName? request.method >>= route.action?) = none := by
        simpa only [action?, hroute, Option.bind_eq_bind, Option.bind_some] using h
      simp only [onRoute, hbind]
      rfl

-- An action about rules is carried out.
theorem act_of_inquiry? {action : Action} {inquiry : Inquiry}
    (h : action.inquiry? = some inquiry) (service : Service) (outage : Outage)
    (moment : Moment) (request : Request) :
    service.act outage moment request action =
      service.carryOut outage moment request inquiry := by
  cases action with
  | health | ready | metrics =>
    exact absurd h (by simp only [Action.inquiry?, reduceCtorEq, not_false_eq_true])
  | list | create =>
    simp only [Action.inquiry?, Option.some.injEq] at h
    rw [← h]
    rfl
  | get segment | update segment | delete segment =>
    simp only [Action.inquiry?, Option.map_eq_some_iff] at h
    rcases h with ⟨id, hid, rfl⟩
    simp only [act, onRule, hid]

theorem service_act_of_inquiry?_none {action : Action} (h : action.inquiry? = none)
    (service : Service) (outage : Outage) (moment : Moment) (request : Request) :
    (service.act outage moment request action).service = service := by
  cases action with
  | health => rfl
  | ready => exact service_ready service outage
  | metrics => rfl
  | list | create =>
    exact absurd h (by simp only [Action.inquiry?, reduceCtorEq, not_false_eq_true])
  | get segment | update segment | delete segment =>
    simp only [Action.inquiry?, Option.map_eq_none_iff] at h
    simp only [act, onRule, h]
    rfl

/-- A request about rules is carried out, and the answer is sent. -/
theorem handle_of_inquiry? {request : Request} {inquiry : Inquiry}
    (h : inquiry? request = some inquiry) (service : Service) (origins : Origins)
    (outage : Outage) (moment : Moment) :
    service.handle origins outage moment request =
      { service.carryOut outage moment request inquiry with
        response := sent origins request
          (service.carryOut outage moment request inquiry).response } := by
  simp only [inquiry?, Option.bind_eq_bind, Option.bind_eq_some_iff] at h
  rcases h with ⟨action, haction, hinquiry⟩
  rw [handle_of_action? haction, act_of_inquiry? hinquiry]

/-- Any other request leaves the service as it is. -/
theorem service_handle_of_inquiry?_none {request : Request} (h : inquiry? request = none)
    (service : Service) (origins : Origins) (outage : Outage) (moment : Moment) :
    (service.handle origins outage moment request).service = service := by
  cases haction : action? request with
  | none =>
    rw [handle_of_action?_none haction]
    rfl
  | some action =>
    rw [handle_of_action? haction]
    refine service_act_of_inquiry?_none ?_ service outage moment request
    simpa only [inquiry?, haction, Option.bind_eq_bind, Option.bind_some] using h

end Service

end Rulebook

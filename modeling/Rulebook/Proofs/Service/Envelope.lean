import Rulebook.Proofs.Record.Texts
import Rulebook.Proofs.Service.Accounting
import Rulebook.Proofs.Service.Grant

/-!
# How Refusals Look

Whoever asks about rules and is refused is told so in an envelope: one object of two
texts, an error and a code, where the code goes with the status. However the request
fails, be it for its payload, for want of the rule or in the store, it fails as a problem,
and there is one way to answer a problem. Whatever a message repeats of what the caller
has sent is escaped, so the envelope is read as the two texts that were put in.

There is one gap. A path that stands for no identifier is turned away before anything is
asked about rules, and what is answered then is a plain line of text.

## Main definitions

* `codes`: The codes that go with the statuses of problems.
* `IsEnvelope`: An answer that is an envelope.
* `Uniform`: An answer that is a success or an envelope.

## Theorems

* `isEnvelope_problem`: A problem is answered by an envelope.
* `uniform_of_asks`: So a request about rules is answered.
* `handle_undecodable`: What is answered to a path that stands for no identifier.
* `envelopes_uniform`: The answers about rules are uniform but for such paths.
* `undecodable_plain`: The answer to such a path is not.
-/

namespace Rulebook

namespace Service

open Http (Request Response)

/-- The codes that go with the statuses of problems. -/
def codes : List (Nat × String) :=
  [(400, "BAD_REQUEST"), (404, "NOT_FOUND"), (500, "INTERNAL_ERROR")]

/-- An answer that is an envelope: it says that it is JSON and nothing else, and its body
    is one object with an error, a code that goes with the status, and no other member. -/
structure IsEnvelope (response : Response) : Prop where
  mediaType : response.headers.values "content-type" = [Text.octets "application/json"]
  body : ∃ text code, (response.status, code) ∈ codes ∧
    Record.parseTexts (Text.octets response.body) = .ok [("error", text), ("code", code)]

/-- An answer that is a success or an envelope. -/
def Uniform (response : Response) : Prop :=
  (200 ≤ response.status ∧ response.status < 300) ∨ IsEnvelope response

/-! ## Answers about rules -/

-- What is granted to a page says nothing of the body.
theorem mediaType_sent (origins : Origins) (request : Request) (response : Response) :
    (sent origins request response).headers.values "content-type" =
      response.headers.values "content-type" := by
  rw [values_sent (by decide), values_pass, if_neg (by decide), List.append_nil]

/-- A problem is answered by an envelope, whatever its message holds. -/
theorem isEnvelope_problem (problem : Problem) (origins : Origins) {request : Request}
    (shown : request.method ≠ "HEAD") :
    IsEnvelope (sent origins request (problemResponse problem)) := by
  have told : ∃ text code, (problem.status, code) ∈ codes ∧
      problem.envelope = .error text code := by
    cases problem with
    | invalid message => exact ⟨message, "BAD_REQUEST", List.mem_cons_self, rfl⟩
    | notFound => exact ⟨_, "NOT_FOUND", List.mem_cons_of_mem _ List.mem_cons_self, rfl⟩
    | store failure =>
      exact ⟨_, "INTERNAL_ERROR",
        List.mem_cons_of_mem _ (List.mem_cons_of_mem _ List.mem_cons_self), rfl⟩
  rcases told with ⟨text, code, hcode, henvelope⟩
  constructor
  · rw [mediaType_sent]
    rfl
  · refine ⟨text, code, ?_, ?_⟩
    · rw [status_sent]
      exact hcode
    · rw [body_sent origins shown]
      simp only [problemResponse, Response.ofJson, henvelope, Envelope.toJson]
      exact Record.parseTexts_compact [("error", text), ("code", code)]

/-- A request about rules is answered by a success or an envelope. -/
theorem uniform_of_asks {request : Request} {inquiry : Inquiry} (asks : Asks request inquiry)
    (shown : request.method ≠ "HEAD") (service : Service) (origins : Origins) (outage : Outage)
    (moment : Moment) :
    Uniform (service.handle origins outage moment request).response := by
  rw [response_of_asks asks]
  cases service.outcome outage moment request inquiry with
  | ok success =>
    left
    rw [status_sent]
    exact status_success success
  | error problem => exact .inr (isEnvelope_problem problem origins shown)

/-! ## Paths that stand for no identifier -/

-- On the path of a rule the method alone is left to decide.
theorem action?_rule {request : Request} {segment : Text.Octets} {method : Method}
    (hsegment : Route.segment? request.path = some segment)
    (hmethod : request.method ∈ method.names) :
    action? request = (Route.rule segment).action? method := by
  simp only [action?, ofPath?_of_segment? hsegment, ofName?_eq_some_iff.2 hmethod,
    Option.bind_eq_bind, Option.bind_some]

-- What is asked of a rule is turned away if the path names none.
theorem act_undecodable {segment : Text.Octets} (hid : ruleId? segment = none) {method : Method}
    {action : Action} (haction : (Route.rule segment).action? method = some action)
    (service : Service) (outage : Outage) (moment : Moment) (request : Request) :
    service.act outage moment request action = service.quiet undecodable := by
  cases method <;> simp only [Route.action?, reduceCtorEq, Option.some.injEq] at haction <;>
    subst haction <;> simp only [act, onRule, hid]

/-- A path that stands for no identifier is answered by a plain line, by whatever method
    a rule is asked for, and nothing is done. -/
theorem handle_undecodable {request : Request} {segment : Text.Octets} {method : Method}
    (hsegment : Route.segment? request.path = some segment)
    (hmethod : request.method ∈ method.names) (taken : method ∈ (Route.rule segment).methods)
    (hid : ruleId? segment = none) (service : Service) (origins : Origins) (outage : Outage)
    (moment : Moment) :
    service.handle origins outage moment request =
      service.quiet (sent origins request undecodable) := by
  rcases Option.isSome_iff_exists.1 ((Route.isSome_action?_iff _ _).2 taken) with
    ⟨action, haction⟩
  rw [handle_of_action? ((action?_rule hsegment hmethod).trans haction),
    act_undecodable hid haction]
  rfl

-- A plain line is no envelope.
theorem not_uniform_undecodable (origins : Origins) (request : Request) :
    ¬ Uniform (sent origins request undecodable) := by
  rintro (success | envelope)
  · rw [status_sent] at success
    exact absurd success.2 (by decide)
  · have mediaType := envelope.mediaType
    rw [mediaType_sent] at mediaType
    exact absurd mediaType (by decide)

/-! ## All answers -/

/-- Whatever is kept and whatever fails: a request to list or to file rules is answered
    by a success or by an envelope. So is a request to fetch, to replace or to remove a
    rule, exactly if its path stands for an identifier. If it does not, it is answered as
    a bad request by a plain line of text, and nothing is done, counted or logged. -/
theorem envelopes_uniform (service : Service) (origins : Origins) (outage : Outage)
    (moment : Moment) (request : Request) :
    let turn := service.handle origins outage moment request
    (request.path = Route.rulesPath → request.method = "GET" ∨ request.method = "POST" →
      Uniform turn.response) ∧
    ∀ segment, Route.segment? request.path = some segment →
      request.method = "GET" ∨ request.method = "PUT" ∨ request.method = "DELETE" →
      (Uniform turn.response ↔
        (Text.ofOctets? (Http.percentDecode segment)).isSome = true) ∧
      (Text.ofOctets? (Http.percentDecode segment) = none →
        turn.response.status = 400 ∧
        turn.response.headers.values "content-type" =
          [Text.octets "text/plain; charset=utf-8"] ∧
        turn.service = service ∧ turn.events = []) := by
  intro turn
  refine ⟨fun path method => ?_, fun segment hsegment method => ?_⟩
  · rcases method with method | method
    · have asks : Asks request .list := ⟨path, by rw [method]; decide⟩
      exact uniform_of_asks asks (by rw [method]; decide) service origins outage moment
    · have asks : Asks request .create := ⟨path, method⟩
      exact uniform_of_asks asks (by rw [method]; decide) service origins outage moment
  · have shown : request.method ≠ "HEAD" := by
      rcases method with method | method | method <;> rw [method] <;> decide
    cases hdecoded : Text.ofOctets? (Http.percentDecode segment) with
    | some text =>
      -- The path names a rule, and each of the three methods asks something of it.
      have path : pathId? request.path = some ⟨text⟩ := by
        simp only [pathId?, hsegment, ruleId?, hdecoded, Option.bind_eq_bind, Option.bind_some,
          Option.map_some]
      have asks : ∃ inquiry, Asks request inquiry := by
        rcases method with method | method | method
        · exact ⟨.get ⟨text⟩, path, by rw [method]; decide⟩
        · exact ⟨.update ⟨text⟩, path, method⟩
        · exact ⟨.delete ⟨text⟩, path, method⟩
      rcases asks with ⟨inquiry, asks⟩
      have uniform := uniform_of_asks asks shown service origins outage moment
      exact ⟨iff_of_true uniform rfl, fun h => absurd h (by simp only [reduceCtorEq,
        not_false_eq_true])⟩
    | none =>
      have hid : ruleId? segment = none := by
        rw [ruleId?, hdecoded]
        rfl
      have takes : ∃ asked : Method, request.method ∈ asked.names ∧
          asked ∈ (Route.rule segment).methods := by
        rcases method with method | method | method <;> rw [method]
        · exact ⟨.get, by decide, List.mem_cons_self⟩
        · exact ⟨.put, by decide, List.mem_cons_of_mem _ List.mem_cons_self⟩
        · exact ⟨.delete, by decide,
            List.mem_cons_of_mem _ (List.mem_cons_of_mem _ List.mem_cons_self)⟩
      rcases takes with ⟨asked, named, taken⟩
      have plain : turn = service.quiet (sent origins request undecodable) :=
        handle_undecodable hsegment named taken hid service origins outage moment
      rw [plain]
      refine ⟨iff_of_false (not_uniform_undecodable origins request) (by decide), fun _ => ?_⟩
      refine ⟨status_sent origins request undecodable, ?_, rfl, rfl⟩
      exact mediaType_sent origins request undecodable

-- The rules are listed, a rule that is not there is missing, and a path that names
-- none is turned away.
theorem envelopes_uniform_missing :
    let now : Instant := ⟨0, 0, by decide, by decide, by decide⟩
    let moment : Moment := ⟨now, ⟨"a"⟩, 0⟩
    let request (path : String) : Request :=
      { method := "GET", path := Text.octets path, headers := [], body := [] }
    let answer (path : String) : Response :=
      (({} : Service).handle ⟨[]⟩ Outage.none moment (request path)).response
    Uniform (answer "/api/rules") ∧
      Route.segment? (request "/api/rules/%C3%A9").path = some (Text.octets "%C3%A9") ∧
      Uniform (answer "/api/rules/%C3%A9") ∧ (answer "/api/rules/%C3%A9").status = 404 ∧
      Route.segment? (request "/api/rules/%ff").path = some (Text.octets "%ff") ∧
      Text.ofOctets? (Http.percentDecode (Text.octets "%ff")) = none ∧
      (answer "/api/rules/%ff").status = 400 := by
  intro now moment request answer
  have law (path : String) := envelopes_uniform {} ⟨[]⟩ Outage.none moment (request path)
  have named : Route.segment? (request "/api/rules/%C3%A9").path =
      some (Text.octets "%C3%A9") := by decide +kernel
  have nameless : Route.segment? (request "/api/rules/%ff").path = some (Text.octets "%ff") := by
    decide +kernel
  have text : (Text.ofOctets? (Http.percentDecode (Text.octets "%C3%A9"))).isSome = true := by
    decide +kernel
  have none : Text.ofOctets? (Http.percentDecode (Text.octets "%ff")) = none := by
    decide +kernel
  exact ⟨(law "/api/rules").1 rfl (.inl rfl), named,
    ((law "/api/rules/%C3%A9").2 _ named (.inl rfl)).1.2 text, by decide +kernel, nameless, none,
    (((law "/api/rules/%ff").2 _ nameless (.inl rfl)).2 none).1⟩

/-- A rule is asked for by a path that stands for no identifier: the answer is a bad
    request, and no envelope. -/
theorem undecodable_plain :
    let now : Instant := ⟨0, 0, by decide, by decide, by decide⟩
    let request : Request :=
      { method := "GET", path := Text.octets "/api/rules/%ff", headers := [], body := [] }
    let turn := ({} : Service).handle ⟨[]⟩ Outage.none ⟨now, ⟨"a"⟩, 0⟩ request
    Route.segment? request.path = some (Text.octets "%ff") ∧
      turn.response.status = 400 ∧
      turn.response.body = "Invalid URL: Invalid UTF-8 in `id`" ∧ ¬ Uniform turn.response := by
  intro now request turn
  have plain : turn.response = sent ⟨[]⟩ request undecodable := by decide +kernel
  refine ⟨by decide +kernel, by decide +kernel, by decide +kernel, ?_⟩
  rw [plain]
  exact not_uniform_undecodable ⟨[]⟩ request

end Service

end Rulebook

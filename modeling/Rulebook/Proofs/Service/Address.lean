import Rulebook.Proofs.Http.Segment
import Rulebook.Proofs.Service.Calls
import Rulebook.Proofs.Service.Twins

/-!
# How a Rule Is Addressed

A rule is addressed by its identifier, written into the last part of a path. Identifiers
are any texts, so the octets of one may have to be written as percent signs with two
digits, and there are many ways to write the same identifier. None of this matters to
what is asked: whatever the writing, the store is asked about the identifier that was
written, octet by octet.

The path is matched as it was sent. Were it decoded first, an identifier with a slash in
it would fall into two parts; were the part decoded once more afterwards, an identifier
that looks like a writing of another one would be taken for that. So identifiers are
kept apart, and the ways to write one of them are not.

## Main definitions

* `ruleTarget`: The target that addresses a rule in a given writing.
* `Inquiry.subject?`: The identifier that an inquiry is about.
* `turnOn`: The turn of a service in which one call is made on its rules.

## Theorems

* `pathId?_ruleTarget`: The path of a rule stands for the identifier that is written.
* `of?_ruleTarget`: A request about a rule is put together.
* `handle_of_call`: A request about rules is answered by making its call.
* `handle_of_paths`: Two paths of one rule are answered alike.
* `find?_handle_of_ne`: A request about one rule does nothing to another.
* `rule_addressed`: A rule is addressed by its identifier, however that is written.
-/

namespace Rulebook

namespace Service

open Http (Headers Request Sign)
open Text (Octets octets)

/-- The target that addresses a rule by an identifier in a given writing. -/
def ruleTarget (signs : List Sign) : String :=
  "/api/rules/" ++ Http.signsText signs

/-- The identifier that an inquiry is about. -/
def Inquiry.subject? : Inquiry → Option RuleId
  | .get id | .update id | .delete id => some id
  | .list | .create => none

/-- The turn of a service in which one call is made on its rules, and what the call comes
    to is answered, told and counted. -/
def turnOn (service : Service) (origins : Origins) (outage : Outage) (request : Request)
    (call : Call) : Turn :=
  let made := service.store.runUnder outage call
  let turn := { service with store := made.2 }.settle call.operation (conclude call made.1)
  { turn with response := sent origins request turn.response }

/-! ## Paths of rules -/

-- What stands behind the path of the rules is the last part of the path of a rule.
theorem segment?_append {written : Octets} (visible : written ≠ [])
    (inside : ∀ b ∈ written, Http.isSegmentOctet b = true) :
    Route.segment? (octets "/api/rules/" ++ written) = some written := by
  have single : 0x2F ∉ written := fun h => absurd (inside 0x2F h) (by decide)
  exact segment?_eq_some_iff.2 ⟨visible, single, rfl⟩

-- Something is written of an identifier that is not empty.
theorem signs_ne_nil {id : RuleId} (named : id.text ≠ "") {signs : List Sign}
    (stands : signs.map Sign.octet = octets id.text) : signs.flatMap Sign.octets ≠ [] := by
  cases signs with
  | nil => exact absurd (Text.octets_injective stands.symm) named
  | cons sign rest =>
    rw [List.flatMap_cons]
    cases sign <;> exact List.cons_ne_nil _ _

/-- The path of a rule stands for the identifier that is written in it. -/
theorem pathId?_ruleTarget {id : RuleId} (named : id.text ≠ "") {signs : List Sign}
    (stands : signs.map Sign.octet = octets id.text) :
    pathId? (octets (ruleTarget signs)) = some id := by
  have segment := segment?_append (signs_ne_nil named stands)
    fun b hb => Http.isSegmentOctet_of_mem_signs hb
  rw [ruleTarget, Text.octets_append, Http.octets_signsText, pathId?, segment]
  simp only [Option.bind_eq_bind, Option.bind_some, ruleId?, Http.percentDecode_signs, stands,
    Text.ofOctets?_octets, Option.map_some]

/-- The target of a rule is a path, if it is not too long. -/
theorem readTarget_ruleTarget {signs : List Sign}
    (fits : (octets (ruleTarget signs)).length ≤ Http.longestTarget) :
    Http.readTarget (octets (ruleTarget signs)) = .ok (octets (ruleTarget signs)) := by
  have spelled : octets (ruleTarget signs) = octets "/api/rules/" ++ signs.flatMap Sign.octets := by
    rw [ruleTarget, Text.octets_append, Http.octets_signsText]
  have start : octets "/api/rules/" = 0x2F :: 0x61 :: octets "pi/rules/" := rfl
  have known : ∀ b ∈ octets "/api/rules/", Http.isPathOctet b = true ∧ b ≠ 0x3F ∧ b ≠ 0x23 := by
    decide +kernel
  have inside : ∀ b ∈ octets "/api/rules/" ++ signs.flatMap Sign.octets,
      Http.isPathOctet b = true ∧ b ≠ 0x3F ∧ b ≠ 0x23 := by
    intro b hb
    rcases List.mem_append.1 hb with start | written
    · exact known b start
    · have inner := Http.isSegmentOctet_of_mem_signs written
      simp only [Http.isSegmentOctet, Bool.and_eq_true, decide_eq_true_eq] at inner
      exact ⟨inner.1.1.1.1, inner.1.1.2, inner.1.2⟩
  rw [spelled] at fits ⊢
  rw [start] at fits inside ⊢
  exact Http.readTarget_eq_ok fits inside

/-- A request about a rule is put together, if the target is not too long. -/
theorem of?_ruleTarget {method : String} (known : method ∈ ["GET", "PUT", "DELETE"])
    {signs : List Sign} (fits : (octets (ruleTarget signs)).length ≤ Http.longestTarget)
    {headers made : Headers}
    (legal : (headers.mapM fun (name, value) => Request.header name value) = .ok made)
    (body : Octets) :
    Request.of? method (ruleTarget signs) headers body =
      .ok { method, path := octets (ruleTarget signs), headers := made, body } := by
  have token : Http.isToken (octets method) = true := by
    revert method
    decide +kernel
  exact Http.of?_eq_ok token (readTarget_ruleTarget fits) legal body

/-! ## Requests about a rule -/

-- A method asks the same of a rule by whatever path.
theorem exists_asks {method : String} (known : method ∈ ["GET", "PUT", "DELETE"]) (id : RuleId) :
    ∃ inquiry : Inquiry, inquiry.subject? = some id ∧
      ∀ request : Request, request.method = method → pathId? request.path = some id →
        Asks request inquiry := by
  simp only [List.mem_cons, List.not_mem_nil, or_false] at known
  rcases known with rfl | rfl | rfl
  · exact ⟨.get id, rfl, fun request method path => ⟨path, by rw [method]; decide⟩⟩
  · exact ⟨.update id, rfl, fun request method path => ⟨path, method⟩⟩
  · exact ⟨.delete id, rfl, fun request method path => ⟨path, method⟩⟩

/-- A request about rules is answered by making the call that it comes to. -/
theorem handle_of_call {request : Request} {inquiry : Inquiry} (asks : Asks request inquiry)
    {moment : Moment} {call : Call} (comes : inquiry.call request moment = .ok call)
    (service : Service) (origins : Origins) (outage : Outage) :
    service.handle origins outage moment request =
      service.turnOn origins outage request call := by
  rw [handle_of_inquiry? (inquiry?_eq_some_iff.2 asks)]
  simp only [turnOn, carryOut, comes, operation_of_call comes]

/-- Two paths by which the same is asked are answered alike. -/
theorem handle_of_paths {request : Request} {path other : Octets} {inquiry : Inquiry}
    (asks : Asks { request with path } inquiry)
    (asksOther : Asks { request with path := other } inquiry) (service : Service)
    (origins : Origins) (outage : Outage) (moment : Moment) :
    service.handle origins outage moment { request with path } =
      service.handle origins outage moment { request with path := other } := by
  have call := call_congr (a := { request with path }) (b := { request with path := other })
    (payload_congr rfl rfl) moment inquiry
  have done : workOn (.ofOutage outage) service.store moment { request with path } inquiry =
      workOn (.ofOutage outage) service.store moment { request with path := other } inquiry := by
    unfold workOn
    rw [call]
  rw [handle_eq_workOn asks, handle_eq_workOn asksOther, done]
  rfl

-- What is asked of one rule is a call about that rule.
theorem subject?_of_call {id : RuleId} {inquiry : Inquiry} (about : inquiry.subject? = some id)
    {request : Request} {moment : Moment} {call : Call}
    (comes : inquiry.call request moment = .ok call) : call.subject? = some id := by
  cases inquiry with
  | list | create => exact absurd about (by simp only [Inquiry.subject?, reduceCtorEq,
      not_false_eq_true])
  | get asked =>
    obtain rfl : Call.get asked = call := Except.ok.inj comes
    exact about
  | update asked =>
    rcases Json.map_eq_ok comes with ⟨fields, -, rfl⟩
    exact about
  | delete asked =>
    obtain rfl : Call.delete asked = call := Except.ok.inj comes
    exact about

-- A call about one rule leaves every other rule as it is, and so does one that fails.
theorem find?_runUnder_of_ne {call : Call} {id other : RuleId} (about : call.subject? = some id)
    (differs : id ≠ other) (store : Store) (outage : Outage) :
    (store.runUnder outage call).2.find? other = store.find? other := by
  unfold Store.runUnder
  cases outage.calls call.operation with
  | some failure => rfl
  | none => exact Store.find?_run_of_ne about differs store

/-- A request about one rule leaves every other rule as it is. -/
theorem find?_handle_of_ne {id other : RuleId} (differs : id ≠ other) {request : Request}
    {inquiry : Inquiry} (about : inquiry.subject? = some id) (asks : Asks request inquiry)
    (service : Service) (origins : Origins) (outage : Outage) (moment : Moment) :
    (service.handle origins outage moment request).service.store.find? other =
      service.store.find? other := by
  rw [handle_eq_workOn asks]
  simp only [workOn]
  cases comes : inquiry.call request moment with
  | error problem => rfl
  | ok call =>
    exact find?_runUnder_of_ne (subject?_of_call about comes) differs service.store outage

/-- A rule is addressed by any identifier but the empty one. The identifier can be
    written, and however it is, as long as a target may be that long: a request is put
    together, and what it asks the store about is that very identifier. To fetch and to
    remove a rule are one call each; to replace it is one call with the fields that the
    payload holds, if it is accepted. The service makes that call on its rules and answers
    what it comes to, and if there is none its rules stay as they are.

    In whatever writing a rule is addressed, the answer is the same. By the path of one
    rule nothing is done to a rule with another identifier, nor is it found there. -/
theorem rule_addressed {id : RuleId} (named : id.text ≠ "") :
    (∃ signs : List Sign, signs.map Sign.octet = octets id.text) ∧
    ∀ signs : List Sign, signs.map Sign.octet = octets id.text →
      (octets (ruleTarget signs)).length ≤ Http.longestTarget →
      ∀ (headers made : Headers) (body : Octets),
        (headers.mapM fun (name, value) => Request.header name value) = .ok made →
        let request (method : String) : Request :=
          { method, path := octets (ruleTarget signs), headers := made, body }
        (∀ method ∈ ["GET", "PUT", "DELETE"],
          Request.of? method (ruleTarget signs) headers body = .ok (request method)) ∧
        (∀ {σ : Type} (storage : Storage σ) (kept : σ) (moment : Moment),
          callsOn storage kept moment (request "GET") = [.get id] ∧
          callsOn storage kept moment (request "PUT") =
            ((payload (request "PUT")).toOption.map fun fields =>
              .update id fields moment.now).toList ∧
          callsOn storage kept moment (request "DELETE") = [.delete id]) ∧
        (∀ (service : Service) (origins : Origins) (outage : Outage) (moment : Moment),
          let turn (method : String) := service.handle origins outage moment (request method)
          turn "GET" = service.turnOn origins outage (request "GET") (.get id) ∧
          (∀ fields, payload (request "PUT") = .ok fields →
            turn "PUT" =
              service.turnOn origins outage (request "PUT") (.update id fields moment.now)) ∧
          (∀ problem, payload (request "PUT") = .error problem →
            (turn "PUT").service.store = service.store) ∧
          turn "DELETE" = service.turnOn origins outage (request "DELETE") (.delete id)) ∧
        ∀ method ∈ ["GET", "PUT", "DELETE"],
          ∀ (service : Service) (origins : Origins) (outage : Outage) (moment : Moment),
            let turn := service.handle origins outage moment (request method)
            (∀ writing : List Sign, writing.map Sign.octet = octets id.text →
              turn = service.handle origins outage moment
                { request method with path := octets (ruleTarget writing) }) ∧
            ∀ other, id ≠ other →
              turn.service.store.find? other = service.store.find? other ∧
                ∀ rule, service.store.find? id = some rule →
                  service.store.find? other ≠ some rule := by
  refine ⟨Http.exists_signs _, fun signs stands fits headers made body legal => ?_⟩
  intro request
  have path : ∀ method, pathId? (request method).path = some id := fun _ =>
    pathId?_ruleTarget named stands
  have gets : Asks (request "GET") (.get id) := ⟨path _, (by decide : "GET" ∈ Method.get.names)⟩
  have puts : Asks (request "PUT") (.update id) := ⟨path _, rfl⟩
  have deletes : Asks (request "DELETE") (.delete id) := ⟨path _, rfl⟩
  refine ⟨fun method known => of?_ruleTarget known fits legal body,
    fun storage kept moment => ⟨?_, ?_, ?_⟩,
    fun service origins outage moment => ⟨?_, fun fields accepted => ?_, fun problem refused => ?_,
      ?_⟩, ?_⟩
  · rw [callsOn_of_asks gets]
    rfl
  · rw [callsOn_of_asks puts, Inquiry.call]
    cases payload (request "PUT") <;> rfl
  · rw [callsOn_of_asks deletes]
    rfl
  · exact handle_of_call gets rfl service origins outage
  · have comes : (Inquiry.update id).call (request "PUT") moment =
        .ok (.update id fields moment.now) := by
      rw [Inquiry.call, accepted]
      rfl
    exact handle_of_call puts comes service origins outage
  · rw [store_handle, inquiry?_of_asks puts]
    simp only [storeAfter, Inquiry.call, refused]
    rfl
  · exact handle_of_call deletes rfl service origins outage
  · intro method known service origins outage moment turn
    rcases exists_asks known id with ⟨inquiry, about, asks⟩
    have asksHere := asks (request method) rfl (path method)
    refine ⟨fun writing spells => ?_, fun other differs => ⟨?_, fun rule found there => ?_⟩⟩
    · have asksThere := asks { request method with path := octets (ruleTarget writing) } rfl
        (pathId?_ruleTarget named spells)
      exact handle_of_paths asksHere asksThere service origins outage moment
    · exact find?_handle_of_ne differs about asksHere service origins outage moment
    · -- What is found has the identifier that it was looked for under.
      have here := (Store.mem_of_find?_eq_some found).2
      exact differs (here.symm.trans (Store.mem_of_find?_eq_some there).2)

-- A slash and a character beyond ASCII, with digits in capital and in small letters.
theorem rule_addressed_slash :
    let hex (value : Fin 16) (capital : Bool) : Json.HexDigit := ⟨value, capital⟩
    let signs : List Sign :=
      [.plain 0x61 (by decide), .percent (hex 2 true) (hex 15 true),
        .percent (hex 12 true) (hex 3 true), .percent (hex 10 false) (hex 9 false)]
    let id : RuleId := ⟨"a/é"⟩
    let now : Instant := ⟨0, 0, by decide, by decide, by decide⟩
    let request : Request :=
      { method := "GET", path := octets "/api/rules/a%2F%C3%a9", headers := [], body := [] }
    id.text ≠ "" ∧ signs.map Sign.octet = octets id.text ∧
      (octets (ruleTarget signs)).length ≤ Http.longestTarget ∧
      Request.of? "GET" (ruleTarget signs) [] [] = .ok request ∧
      callsOn (Storage.ofOutage Outage.none) Store.empty ⟨now, ⟨"b"⟩, 0⟩ request = [.get id] := by
  intro hex signs id now request
  have named : id.text ≠ "" := by decide
  have stands : signs.map Sign.octet = octets id.text := by decide
  have written : octets (ruleTarget signs) = octets "/api/rules/a%2F%C3%a9" := by decide +kernel
  have fits : (octets (ruleTarget signs)).length ≤ Http.longestTarget := by
    rw [written]
    decide +kernel
  have law := (rule_addressed named).2 signs stands fits [] [] [] rfl
  rw [written] at law
  exact ⟨named, stands, fits, law.1 "GET" List.mem_cons_self, (law.2.1 _ _ _).1⟩

end Service

end Rulebook

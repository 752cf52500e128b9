import Rulebook.Proofs.Record.Acceptance
import Rulebook.Proofs.Service.Calls
import Rulebook.Proofs.Service.Ledger

/-!
# What Comes First

A request to file or to replace a rule can fail in five ways before anything is done,
and in two more when it is. Its body may not say that it is JSON; it may be too long; its
text may not be a draft; the draft may have no name to show; and then the store may fail,
or the rule may not be there. Which of these a caller is told of does not hang on chance:
the payload is looked at first, and as long as it is refused the store is not asked, so
the refusal is the same whatever is kept and whatever fails.

Once the payload is accepted, one call is made with its fields, and the caller is told
what the store replied. A bad request is then out of the question.

## Main definitions

* `Refused`: Why a payload is refused, and what the caller is told.
* `Accepted`: When a payload is accepted, and for which fields.
* `Writes`: Requests to file or to replace a rule.

## Theorems

* `refused_or_accepted`: Every payload is refused or accepted.
* `payload_of_refused`, `payload_of_accepted`: What the service makes of a payload.
* `handle_of_refused`: A refusal is answered without asking the store.
* `status_filed`, `status_replaced`: What is answered to a payload that is accepted.
* `payload_precedes_store`: The payload is decided before the store is asked.
-/

namespace Rulebook

namespace Service

open Http (Request Response)
open Record (readRecord)

/-- Why a payload is refused, with what the caller is told. Of several reasons the first
    one counts. -/
inductive Refused (request : Request) : String → Prop
  /-- The request does not say that its body is JSON. -/
  | notJson (type : saysJson request = false) : Refused request PayloadFault.notJson.message
  | tooLarge (type : saysJson request = true) (size : longestBody < request.body.length) :
      Refused request PayloadFault.tooLarge.message
  /-- The body is no JSON, or no draft. -/
  | text (type : saysJson request = true) (size : request.body.length ≤ longestBody)
      {fault : Json.Fault} (read : readRecord Draft.shape request.body = .error fault) :
      Refused request (PayloadFault.text fault request.body).message
  /-- Trimming leaves nothing of the name. -/
  | blankName (type : saysJson request = true) (size : request.body.length ≤ longestBody)
      {draft : Draft} {rest : Text.Octets}
      (read : readRecord Draft.shape request.body = .ok (draft, rest))
      (blank : Text.trim draft.proposed.name.toList = []) :
      Refused request DraftFault.blankName.message

/-- A payload that is accepted for its fields. -/
structure Accepted (request : Request) (fields : Fields) : Prop where
  type : saysJson request = true
  size : request.body.length ≤ longestBody
  read : ∃ rest, readRecord Draft.shape request.body = .ok (⟨fields⟩, rest)
  named : Text.trim fields.name.toList ≠ []

/-- A request to file a rule, or to replace one. -/
def Writes (request : Request) : Prop :=
  (request.method = "POST" ∧ request.path = Route.rulesPath) ∨
    (request.method = "PUT" ∧ (pathId? request.path).isSome = true)

/-! ## Payloads -/

section

variable {request : Request}

/-- Every payload is refused or accepted. -/
theorem refused_or_accepted (request : Request) :
    (∃ message, Refused request message) ∨ ∃ fields, Accepted request fields := by
  cases type : saysJson request with
  | false => exact .inl ⟨_, .notJson type⟩
  | true =>
    by_cases size : request.body.length ≤ longestBody
    · cases read : readRecord Draft.shape request.body with
      | error fault => exact .inl ⟨_, .text type size read⟩
      | ok made =>
        rcases made with ⟨draft, rest⟩
        by_cases blank : Text.trim draft.proposed.name.toList = []
        · exact .inl ⟨_, .blankName type size read blank⟩
        · exact .inr ⟨draft.proposed, type, size, ⟨rest, read⟩, blank⟩
    · exact .inl ⟨_, .tooLarge type (Nat.lt_of_not_le size)⟩

-- A payload that says it is JSON, and fits, is read from the front.
theorem readDraft_of_fits (type : saysJson request = true)
    (size : request.body.length ≤ longestBody) :
    readDraft request =
      match readRecord Draft.shape request.body with
      | .ok (draft, _) => .ok draft
      | .error fault => .error (.text fault request.body) := by
  unfold readDraft
  cases readRecord Draft.shape request.body with
  | error fault =>
    simp only [type, Nat.not_lt.2 size, Bool.not_true, Bool.false_eq_true, if_false]
  | ok made =>
    simp only [type, Nat.not_lt.2 size, Bool.not_true, Bool.false_eq_true, if_false]

/-- What is refused is a bad request with the message. -/
theorem payload_of_refused {message : String} (h : Refused request message) :
    payload request = .error (.invalid message) := by
  cases h with
  | notJson type => simp only [payload, readDraft, type, Bool.not_false, if_true]
  | tooLarge type size =>
    simp only [payload, readDraft, type, size, Bool.not_true, Bool.false_eq_true, if_false,
      if_true]
  | text type size read => simp only [payload, readDraft_of_fits type size, read]
  | blankName type size read blank =>
    simp only [payload, readDraft_of_fits type size, read, Draft.accept, Text.allBlank, blank,
      List.isEmpty_nil, if_true]

/-- What is accepted is taken for its fields. -/
theorem payload_of_accepted {fields : Fields} (h : Accepted request fields) :
    payload request = .ok fields := by
  rcases h.read with ⟨rest, read⟩
  have named : (Text.trim fields.name.toList).isEmpty = false := by
    rw [← Bool.not_eq_true, List.isEmpty_iff]
    exact h.named
  simp only [payload, readDraft_of_fits h.type h.size, read, Draft.accept, Text.allBlank, named,
    Bool.false_eq_true, if_false]

-- What writes asks to file a rule or to replace one, and sends a payload for it.
theorem exists_asks_of_writes (h : Writes request) :
    ∃ inquiry : Inquiry, Asks request inquiry ∧ ∀ {message : String} {moment : Moment},
      Refused request message → inquiry.call request moment = .error (.invalid message) := by
  rcases h with ⟨method, path⟩ | ⟨method, path⟩
  · refine ⟨.create, ⟨path, method⟩, fun refused => ?_⟩
    rw [Inquiry.call, payload_of_refused refused]
    rfl
  · rcases Option.isSome_iff_exists.1 path with ⟨id, path⟩
    refine ⟨.update id, ⟨path, method⟩, fun refused => ?_⟩
    rw [Inquiry.call, payload_of_refused refused]
    rfl

/-! ## Answers -/

/-- A refusal is answered without asking the store, and counted. -/
theorem handle_of_refused (writes : Writes request) {message : String}
    (refused : Refused request message) :
    (∀ {σ : Type} (storage : Storage σ) (kept : σ) (moment : Moment),
      callsOn storage kept moment request = []) ∧
    ∀ (service : Service) (origins : Origins) (outage : Outage) (moment : Moment),
      service.handle origins outage moment request =
        { response := sent origins request (problemResponse (.invalid message))
          events := []
          service := { service with
            tally := { service.tally with invalid := service.tally.invalid + 1 } } } := by
  rcases exists_asks_of_writes writes with ⟨inquiry, asks, call⟩
  refine ⟨fun storage kept moment => ?_, fun service origins outage moment => ?_⟩
  · rw [callsOn_of_asks asks, call refused]
    rfl
  · rw [handle_eq_workOn asks]
    simp only [workOn, call refused]
    rfl

-- The status of an answer about rules is that of what becomes of the call.
theorem status_of_call {inquiry : Inquiry} (asks : Asks request inquiry) {moment : Moment}
    {call : Call} (comes : inquiry.call request moment = .ok call) (service : Service)
    (origins : Origins) (outage : Outage) :
    (service.handle origins outage moment request).response.status =
      (outcomeResponse (conclude call (service.store.runUnder outage call).1)).status := by
  rw [handle_eq_workOn asks, status_sent, workOn, comes]
  rfl

/-- A payload that is accepted is filed by one call, and the reply to it is told. -/
theorem status_filed (asks : Asks request .create) {fields : Fields}
    (accepted : Accepted request fields) (moment : Moment) :
    let rule := Rule.create moment.newId fields moment.now
    (∀ {σ : Type} (storage : Storage σ) (kept : σ),
      callsOn storage kept moment request = [.create rule]) ∧
    ∀ (service : Service) (origins : Origins) (outage : Outage),
      (service.handle origins outage moment request).response.status =
        if (service.store.runUnder outage (.create rule)).1.isOk then 201 else 500 := by
  intro rule
  have comes : Inquiry.create.call request moment = .ok (.create rule) := by
    rw [Inquiry.call, payload_of_accepted accepted]
    rfl
  refine ⟨fun storage kept => ?_, fun service origins outage => ?_⟩
  · rw [callsOn_of_asks asks, comes]
    rfl
  · rw [status_of_call asks comes]
    cases (service.store.runUnder outage (.create rule)).1 <;> rfl

/-- A payload that is accepted replaces by one call, and the reply to it is told. -/
theorem status_replaced {id : RuleId} (asks : Asks request (.update id)) {fields : Fields}
    (accepted : Accepted request fields) (moment : Moment) :
    let call := Call.update id fields moment.now
    (∀ {σ : Type} (storage : Storage σ) (kept : σ),
      callsOn storage kept moment request = [call]) ∧
    ∀ (service : Service) (origins : Origins) (outage : Outage),
      (service.handle origins outage moment request).response.status =
        if (service.store.runUnder outage call).1.isOk then
          if (service.store.find? id).isSome then 200 else 404
        else 500 := by
  intro call
  have comes : (Inquiry.update id).call request moment = .ok call := by
    rw [Inquiry.call, payload_of_accepted accepted]
    rfl
  refine ⟨fun storage kept => ?_, fun service origins outage => ?_⟩
  · rw [callsOn_of_asks asks, comes]
    rfl
  · rw [status_of_call asks comes, Store.runUnder]
    cases outage.calls call.operation with
    | some failure => rfl
    | none =>
      -- Without a failure the store finds what it has changed, if there was anything.
      simp only [call, Store.run, Store.find?_update, if_true]
      cases service.store.find? id <;> rfl

end

/-- Whatever is sent to file or to replace a rule, its payload is refused or accepted, and
    that is settled by the request.

    If it is refused, no call is made on any storage. Whatever is kept and whatever fails,
    the answer is a bad request with the message of the refusal, and afterwards the rules
    are the same, and the counts but for one more refusal.

    If it is accepted, one call is made, with its fields. A rule is filed, or the call
    fails and the caller is told of an internal error. A rule is replaced, if it is there
    and the call does not fail. Bad requests are not among the answers. -/
theorem payload_precedes_store {request : Request} (writes : Writes request) :
    ((∃ message, Refused request message) ∨ ∃ fields, Accepted request fields) ∧
    (∀ message, Refused request message →
      (∀ {σ : Type} (storage : Storage σ) (kept : σ) (moment : Moment),
        callsOn storage kept moment request = []) ∧
      ∀ (service : Service) (origins : Origins) (outage : Outage) (moment : Moment),
        let turn := service.handle origins outage moment request
        turn.response.status = 400 ∧
        turn.response.body = (Envelope.badRequest message).toJson.compact ∧
        turn.service = { service with
          tally := { service.tally with invalid := service.tally.invalid + 1 } }) ∧
    ∀ fields, Accepted request fields → ∀ moment : Moment,
      (request.method = "POST" →
        let rule := Rule.create moment.newId fields moment.now
        (∀ {σ : Type} (storage : Storage σ) (kept : σ),
          callsOn storage kept moment request = [.create rule]) ∧
        ∀ (service : Service) (origins : Origins) (outage : Outage),
          (service.handle origins outage moment request).response.status =
            if (service.store.runUnder outage (.create rule)).1.isOk then 201 else 500) ∧
      ∀ id, request.method = "PUT" → pathId? request.path = some id →
        let call := Call.update id fields moment.now
        (∀ {σ : Type} (storage : Storage σ) (kept : σ),
          callsOn storage kept moment request = [call]) ∧
        ∀ (service : Service) (origins : Origins) (outage : Outage),
          (service.handle origins outage moment request).response.status =
            if (service.store.runUnder outage call).1.isOk then
              if (service.store.find? id).isSome then 200 else 404
            else 500 := by
  refine ⟨refused_or_accepted request, fun message refused => ?_,
    fun fields accepted moment => ⟨fun method => ?_, fun id method path => ?_⟩⟩
  · rcases handle_of_refused writes refused with ⟨silent, answered⟩
    refine ⟨silent, fun service origins outage moment => ?_⟩
    intro turn
    have shown : request.method ≠ "HEAD" := by
      rcases writes with ⟨method, -⟩ | ⟨method, -⟩ <;> rw [method] <;> decide
    have done : turn = _ := answered service origins outage moment
    rw [done]
    exact ⟨status_sent .., body_sent origins shown _, rfl⟩
  · have path : request.path = Route.rulesPath := by
      rcases writes with ⟨-, path⟩ | ⟨put, -⟩
      · exact path
      · exact absurd (method.symm.trans put) (by decide)
    exact status_filed ⟨path, method⟩ accepted moment
  · exact status_replaced ⟨path, method⟩ accepted moment

-- While every call fails, a name of one blank is a bad request and anything else is an
-- internal error; on an empty store that does not fail, nothing is there to be replaced.
theorem payload_precedes_store_failing :
    let now : Instant := ⟨0, 0, by decide, by decide, by decide⟩
    let moment : Moment := ⟨now, ⟨"b"⟩, 0⟩
    let failing : Outage := { calls := fun _ => some { text := "out of reach" } }
    let fields : Fields := ⟨"n", none, "c", "x", true⟩
    let request (name : String) : Request :=
      { method := "PUT"
        path := Text.octets "/api/rules/a"
        headers := [("content-type", Text.octets "application/json")]
        body := Text.octets ("[\"" ++ name ++ "\", null, \"c\", \"x\", true]") }
    let status (outage : Outage) (name : String) : Nat :=
      (({} : Service).handle ⟨[]⟩ outage moment (request name)).response.status
    Writes (request "\u3000") ∧ Refused (request "\u3000") "name must not be empty" ∧
      status failing "\u3000" = 400 ∧ status Outage.none "\u3000" = 400 ∧
      Writes (request "n") ∧ Accepted (request "n") fields ∧
      status failing "n" = 500 ∧ status Outage.none "n" = 404 := by
  intro now moment failing fields request status
  have path : pathId? (Text.octets "/api/rules/a") = some ⟨"a"⟩ := by decide +kernel
  have writes (name : String) : Writes (request name) := .inr ⟨rfl, congrArg Option.isSome path⟩
  have size : ∀ name ∈ ["\u3000", "n"], (request name).body.length ≤ longestBody := by
    decide +kernel
  have read : ∀ name ∈ ["\u3000", "n"], (readRecord Draft.shape (request name).body).toOption =
      some (⟨{ fields with name }⟩, []) := by
    decide +kernel
  have refused : Refused (request "\u3000") "name must not be empty" :=
    .blankName (by decide +kernel) (size _ List.mem_cons_self)
      (Record.toOption_eq_some_iff.1 (read _ List.mem_cons_self)) (by decide +kernel)
  have accepted : Accepted (request "n") fields :=
    { type := by decide +kernel
      size := size _ (List.mem_cons_of_mem _ List.mem_cons_self)
      read := ⟨[], Record.toOption_eq_some_iff.1
        (read _ (List.mem_cons_of_mem _ List.mem_cons_self))⟩
      named := by decide +kernel }
  have bad := (payload_precedes_store (writes "\u3000")).2.1 _ refused
  have replaced := ((payload_precedes_store (writes "n")).2.2 fields accepted moment).2 ⟨"a"⟩ rfl
    path
  exact ⟨writes _, refused, (bad.2 {} ⟨[]⟩ failing moment).1,
    (bad.2 {} ⟨[]⟩ Outage.none moment).1, writes _, accepted, replaced.2 {} ⟨[]⟩ failing,
    replaced.2 {} ⟨[]⟩ Outage.none⟩

end Service

end Rulebook

import Rulebook.Proofs.Record.Excerpt
import Rulebook.Proofs.Rule.Revision
import Rulebook.Proofs.Service.Address
import Rulebook.Proofs.Service.Precedence

/-!
# A Rule Written Back

Whoever fetches a rule may send what is shown back into its place, octet by octet. The
text of a rule is no draft that a caller would write: it has three members more. It is
taken for the draft of the fields all the same, so the fields of the rule are replaced by
themselves, and all that changes is the time of the last change. That time is the reading
of the clock, unless the rule was changed later than that.

A second time at the same reading of the clock there is nothing left to change, for the
later of two times is not moved by either of them. One thing can come in between: with the
new time the text of the rule may have become longer, and longer than a body may be. What
was sent the first time can be sent again even then, but what is shown anew is refused.

## Theorems

* `Store.update_eq_self`: A store is not changed where its rule is not.
* `accepted_of_shown`: The text of a rule is accepted for the fields of the rule.
* `handle_get`, `handle_put`: What is answered, and what is kept then.
* `rule_shown`, `rule_sent`: The two halves of reading a rule and writing it back.
* `written_back`: What is made of an answer that is sent back as it is.
* `written_back_settled`: What was done at this time already is not done again.
* `rule_written_back`: To read a rule and to write it back changes one time.
-/

namespace Rulebook

/-- A replacement that changes nothing of its rule changes nothing of the store. -/
theorem Store.update_eq_self {store : Store} (distinct : store.Distinct) {id : RuleId} {rule : Rule}
    (found : store.find? id = some rule) {fields : Fields} {now : Instant}
    (settled : rule.apply fields now = rule) : store.update id fields now = store := by
  rcases Store.mem_of_find?_eq_some found with ⟨kept, hid⟩
  have same : ∀ r ∈ store.rules, (if r.id = id then r.apply fields now else r) = r := by
    intro r hr
    by_cases h : r.id = id
    · rw [if_pos h, Store.eq_of_id_eq distinct hr kept (h.trans hid.symm), settled]
    · rw [if_neg h]
  have rules : (store.update id fields now).rules = store.rules := by
    rw [Store.rules_update distinct, List.map_congr_left same, List.map_id']
  exact congrArg Store.mk rules

namespace Service

open Http (Headers Request Sign)
open Text (Octets octets)

section

variable {service : Service} {outage : Outage} {request : Request} {id : RuleId} {rule : Rule}

/-! ## What is sent -/

-- A request with the plain type says that its body is JSON.
theorem saysJson_of_header (h : request.header? "content-type" = some (octets "application/json")) :
    saysJson request = true := by
  rcases Option.map_eq_some_iff.1 Http.isJson_application_json with ⟨type, read, json⟩
  simp only [saysJson, h, Option.bind_eq_bind, Option.bind_some, read, json]

/-- The text of a rule with a name to show is accepted for the fields of the rule. -/
theorem accepted_of_shown (json : saysJson request = true)
    (body : request.body = octets rule.toJson.compact) (size : request.body.length ≤ longestBody)
    (visible : Text.trim rule.fields.name.toList ≠ []) : Accepted request rule.fields := by
  rcases Record.parseRecord_eq_ok_iff.1 (Record.parseRecord_rule_as_draft rule) with
    ⟨rest, read, -⟩
  exact { type := json, size, read := ⟨rest, body ▸ read⟩, named := visible }

/-! ## What is answered -/

/-- A rule that is there is shown, and nothing is done. -/
theorem handle_get (asks : Asks request (.get id)) (calm : outage.calls .get = none)
    (found : service.store.find? id = some rule) (origins : Origins) (moment : Moment) :
    let turn := service.handle origins outage moment request
    turn.response = sent origins request (outcomeResponse (.ok (.fetched rule))) ∧
      turn.service.store = service.store := by
  have done : workOn (.ofOutage outage) service.store moment request (.get id) =
      (.ok (.fetched rule), service.store) := by
    simp only [workOn, Inquiry.call, Storage.ofOutage, Store.runUnder, Call.operation, calm,
      Store.run, found]
    rfl
  exact handle_of_workOn asks done origins

/-- A rule that is there is replaced, and shown as it is then. -/
theorem handle_put (asks : Asks request (.update id)) (calm : outage.calls .update = none)
    {fields : Fields} (taken : payload request = .ok fields)
    (found : service.store.find? id = some rule) (origins : Origins) (moment : Moment) :
    let turn := service.handle origins outage moment request
    turn.response =
        sent origins request (outcomeResponse (.ok (.updated (rule.apply fields moment.now)))) ∧
      turn.service.store = service.store.update id fields moment.now := by
  have done : workOn (.ofOutage outage) service.store moment request (.update id) =
      (.ok (.updated (rule.apply fields moment.now)),
        service.store.update id fields moment.now) := by
    simp only [workOn, Inquiry.call, taken, Except.map, Storage.ofOutage, Store.runUnder,
      Call.operation, calm, Store.run, Store.find?_update, if_true, found]
    rfl
  exact handle_of_workOn asks done origins

end

/-! ## There and back -/

section

variable {service : Service} {outage : Outage} {path : Octets} {headers : Headers} {id : RuleId}
  {kept : Rule}

/-- What is shown of a rule that is there. -/
theorem rule_shown (addressed : pathId? path = some id) (calm : outage.calls .get = none)
    (found : service.store.find? id = some kept) (headers : Headers) (origins : Origins)
    (moment : Moment) :
    let turn := service.handle origins outage moment ⟨"GET", path, headers, []⟩
    turn.response.status = 200 ∧ turn.response.body = kept.toJson.compact ∧
      turn.service.store = service.store := by
  have asks : Asks ⟨"GET", path, headers, []⟩ (.get id) :=
    ⟨addressed, (by decide : "GET" ∈ Method.get.names)⟩
  rcases handle_get asks calm found origins moment with ⟨response, store⟩
  intro turn
  rw [response]
  exact ⟨status_sent .., body_sent origins (by decide : "GET" ≠ "HEAD") _, store⟩

/-- What is made of the text of a rule that is sent into the place of one with the same
    fields. Nothing of the answer hangs on the text. -/
theorem rule_sent (addressed : pathId? path = some id)
    (json : headers.lookup "content-type" = some (octets "application/json"))
    (calm : outage.calls .update = none) (found : service.store.find? id = some kept)
    (visible : Text.trim kept.fields.name.toList ≠ []) {shown : Rule}
    (same : shown.fields = kept.fields) (size : (octets shown.toJson.compact).length ≤ longestBody)
    {body : String} (text : body = shown.toJson.compact)
    (origins : Origins) (moment : Moment) :
    let turn := service.handle origins outage moment ⟨"PUT", path, headers, octets body⟩
    turn.response = sent origins ⟨"PUT", path, headers, []⟩
        (outcomeResponse (.ok (.updated (kept.apply kept.fields moment.now)))) ∧
      turn.service.store = service.store.update id kept.fields moment.now := by
  have asks : Asks ⟨"PUT", path, headers, octets body⟩ (.update id) := ⟨addressed, rfl⟩
  have fits : (octets body).length ≤ longestBody := text ▸ size
  have accepted : Accepted ⟨"PUT", path, headers, octets body⟩ shown.fields :=
    accepted_of_shown (saysJson_of_header json) (congrArg octets text) fits (same ▸ visible)
  exact handle_put asks calm (same ▸ payload_of_accepted accepted) found origins moment

-- When the rule was changed at this time already, the text of a rule changes nothing.
theorem rule_sent_again (addressed : pathId? path = some id)
    (json : headers.lookup "content-type" = some (octets "application/json"))
    (distinct : service.store.Distinct) (calm : outage.calls .update = none)
    (found : service.store.find? id = some kept)
    (visible : Text.trim kept.fields.name.toList ≠ []) {shown : Rule}
    (same : shown.fields = kept.fields) (size : (octets shown.toJson.compact).length ≤ longestBody)
    {body : String} (text : body = shown.toJson.compact)
    (origins : Origins) {moment : Moment}
    (settled : kept.apply kept.fields moment.now = kept) :
    let turn := service.handle origins outage moment ⟨"PUT", path, headers, octets body⟩
    turn.response =
        sent origins ⟨"PUT", path, headers, []⟩ (outcomeResponse (.ok (.updated kept))) ∧
      turn.service.store = service.store := by
  have done := rule_sent addressed json calm found visible same size text origins moment
  rw [settled, Store.update_eq_self distinct found settled] at done
  exact done

/-- What is made of an answer that is sent back as it is, if it is no longer than a body
    may be. -/
theorem written_back (addressed : pathId? path = some id)
    (json : headers.lookup "content-type" = some (octets "application/json"))
    (calm : ∀ operation, outage.calls operation = none)
    (found : service.store.find? id = some kept)
    (visible : Text.trim kept.fields.name.toList ≠ [])
    (size : (octets kept.toJson.compact).length ≤ longestBody) (asking : Headers)
    (origins : Origins) (earlier moment : Moment) :
    let shown := service.handle origins outage earlier ⟨"GET", path, asking, []⟩
    let turn := shown.service.handle origins outage moment
      ⟨"PUT", path, headers, octets shown.response.body⟩
    turn.response = sent origins ⟨"PUT", path, headers, []⟩
        (outcomeResponse (.ok (.updated (kept.apply kept.fields moment.now)))) ∧
      turn.service.store = service.store.update id kept.fields moment.now := by
  intro shown turn
  have first : _ ∧ shown.response.body = _ ∧ shown.service.store = _ :=
    rule_shown addressed (calm .get) found asking origins earlier
  rcases first with ⟨-, body, store⟩
  -- What is shown is sent to a service that keeps the same rules.
  rw [← store] at found ⊢
  exact rule_sent addressed json (calm .update) found visible rfl size body origins moment

/-- A body that is too long is refused, whatever it is. -/
theorem oversized_sent (addressed : pathId? path = some id)
    (json : headers.lookup "content-type" = some (octets "application/json")) {body : Octets}
    (size : longestBody < body.length) (service : Service) (origins : Origins) (outage : Outage)
    (moment : Moment) :
    let turn := service.handle origins outage moment ⟨"PUT", path, headers, body⟩
    turn.response.status = 400 ∧ turn.service.store = service.store := by
  have writes : Writes ⟨"PUT", path, headers, body⟩ := .inr ⟨rfl, congrArg Option.isSome addressed⟩
  have refused := (handle_of_refused writes (.tooLarge (saysJson_of_header json) size)).2 service
    origins outage moment
  intro turn
  have whole : turn = _ := refused
  rw [whole]
  exact ⟨status_sent .., rfl⟩

/-- When the rule was changed at this time already, to read it and to write it back changes
    nothing. Only its text may have become too long. -/
theorem written_back_settled (addressed : pathId? path = some id)
    (json : headers.lookup "content-type" = some (octets "application/json"))
    (distinct : service.store.Distinct) (calm : ∀ operation, outage.calls operation = none)
    (found : service.store.find? id = some kept)
    (visible : Text.trim kept.fields.name.toList ≠ []) (asking : Headers) (origins : Origins)
    (earlier : Moment) {moment : Moment} (settled : kept.apply kept.fields moment.now = kept) :
    let shown := service.handle origins outage earlier ⟨"GET", path, asking, []⟩
    let turn := shown.service.handle origins outage moment
      ⟨"PUT", path, headers, octets shown.response.body⟩
    let length := (octets kept.toJson.compact).length
    turn.service.store = service.store ∧
      (length ≤ longestBody → turn.response =
        sent origins ⟨"PUT", path, headers, []⟩ (outcomeResponse (.ok (.updated kept)))) ∧
      (longestBody < length → turn.response.status = 400) := by
  intro shown turn length
  have first : _ ∧ shown.response.body = _ ∧ shown.service.store = _ :=
    rule_shown addressed (calm .get) found asking origins earlier
  rcases first with ⟨-, body, store⟩
  have fitting (fits : length ≤ longestBody) : turn.response = _ ∧ turn.service.store = _ :=
    written_back addressed json calm found visible fits asking origins earlier moment
  have oversized (long : longestBody < length) :
      turn.response.status = 400 ∧ turn.service.store = _ :=
    oversized_sent addressed json (body ▸ long) shown.service origins outage moment
  rw [settled, Store.update_eq_self distinct found settled] at fitting
  refine ⟨?_, fun fits => (fitting fits).1, fun long => (oversized long).1⟩
  -- Whether the text fits or not, no rule has changed.
  rcases Nat.lt_or_ge longestBody length with long | fits
  · exact (oversized long).2.trans store
  · exact (fitting fits).2

end

/-- To read a rule and to write it back changes the time of its last change, and nothing
    else. The rule is one of a store without repeated identifiers, of which no call fails;
    its identifier is not empty, its name shows something, and its text is no longer than a
    body may be. However its identifier is written, a request about it can be put together
    if a target may be that long, and the path of the request stands for the identifier.

    By any path that does, the rule is fetched as its text, and when the very octets of
    this answer are sent to replace it, it is replaced. It counts as changed at the reading
    of the clock, cut to whole microseconds, unless it was changed later than that; the
    rest of it and the other rules are as they were.

    When that is done a second time at the same reading of the clock, no rule changes any
    more. The same octets are answered as before. So are the octets of a new answer, unless
    with the new time they are more than a body may be, which is then refused. -/
theorem rule_written_back {service : Service} (distinct : service.store.Distinct) {outage : Outage}
    (calm : ∀ operation, outage.calls operation = none) {rule : Rule}
    (kept : rule ∈ service.store.rules) (named : rule.id.text ≠ "")
    (visible : Text.trim rule.fields.name.toList ≠ [])
    (size : (octets rule.toJson.compact).length ≤ longestBody) :
    (∀ signs : List Sign, signs.map Sign.octet = octets rule.id.text →
      (octets (ruleTarget signs)).length ≤ Http.longestTarget →
      pathId? (octets (ruleTarget signs)) = some rule.id ∧
      ∀ method ∈ ["GET", "PUT", "DELETE"], ∀ (headers made : Headers) (body : Octets),
        (headers.mapM fun (name, value) => Request.header name value) = .ok made →
        Request.of? method (ruleTarget signs) headers body =
          .ok ⟨method, octets (ruleTarget signs), made, body⟩) ∧
    ∀ (path : Octets) (asking sending : Headers) (origins : Origins) (earlier moment : Moment),
      pathId? path = some rule.id →
      sending.lookup "content-type" = some (octets "application/json") →
      let fetch (service : Service) (moment : Moment) : Turn :=
        service.handle origins outage moment ⟨"GET", path, asking, []⟩
      let send (service : Service) (moment : Moment) (body : String) : Turn :=
        service.handle origins outage moment ⟨"PUT", path, sending, octets body⟩
      let updated : Rule :=
        { rule with updatedAt := Instant.later moment.now.floorMicros rule.updatedAt }
      let shown := fetch service earlier
      let turn := send shown.service moment shown.response.body
      shown.response.status = 200 ∧ shown.response.body = rule.toJson.compact ∧
      turn.response.status = 200 ∧ turn.response.body = updated.toJson.compact ∧
      turn.service.store.rules =
        service.store.rules.map (fun r => if r.id = rule.id then updated else r) ∧
      ∀ after again : Moment, again.now = moment.now →
        (let repeated := send turn.service again shown.response.body
         repeated.response = turn.response ∧ repeated.service.store = turn.service.store) ∧
        let anew := fetch turn.service after
        let second := send anew.service again anew.response.body
        let length := (octets updated.toJson.compact).length
        second.service.store = turn.service.store ∧
          (length ≤ longestBody → second.response = turn.response) ∧
          (longestBody < length → second.response.status = 400) := by
  refine ⟨fun signs stands fits => ⟨pathId?_ruleTarget named stands,
    fun method known headers made body legal => of?_ruleTarget known fits legal body⟩, ?_⟩
  intro path asking sending origins earlier moment addressed json fetch send updated shown turn
  have found : service.store.find? rule.id = some rule :=
    (Store.find?_eq_some_iff distinct).2 ⟨kept, rfl⟩
  have first : shown.response.status = 200 ∧ shown.response.body = rule.toJson.compact ∧
      shown.service.store = service.store :=
    rule_shown addressed (calm .get) found asking origins earlier
  rcases first with ⟨status, body, -⟩
  have done : turn.response = sent origins ⟨"PUT", path, sending, []⟩
        (outcomeResponse (.ok (.updated updated))) ∧
      turn.service.store = service.store.update rule.id rule.fields moment.now :=
    written_back addressed json calm found visible size asking origins earlier moment
  -- From here on only this is used of the two answers.
  clear_value turn shown
  rcases done with ⟨answer, replaced⟩
  refine ⟨status, body, ?_, ?_, ?_, fun after again same => ?_⟩
  · rw [answer]
    exact status_sent ..
  · rw [answer]
    exact body_sent origins (by decide : "PUT" ≠ "HEAD") _
  · rw [replaced, Store.rules_update distinct]
    refine List.map_congr_left fun r hr => ?_
    by_cases hid : r.id = rule.id
    · rw [if_pos hid, if_pos hid, Store.eq_of_id_eq distinct hr kept hid]
      rfl
    · rw [if_neg hid, if_neg hid]
  · have distinctThen : turn.service.store.Distinct :=
      replaced ▸ Store.distinct_update distinct rule.id rule.fields moment.now
    have foundThen : turn.service.store.find? rule.id = some updated := by
      rw [replaced, Store.find?_update, if_pos rfl, found]
      rfl
    have settled : updated.apply updated.fields again.now = updated := by
      rw [same]
      exact rule.apply_apply rule.fields moment.now
    have repeated := rule_sent_again addressed json distinctThen (calm .update) foundThen visible
      (rfl : rule.fields = updated.fields) size body origins settled
    have anew := written_back_settled addressed json distinctThen calm foundThen visible asking
      origins after settled
    refine ⟨⟨repeated.1.trans answer.symm, repeated.2⟩, anew.1, ?_⟩
    rw [answer]
    exact anew.2

-- A rule that is switched off and has no description stays so. The clock shows a part of a
-- microsecond.
theorem rule_written_back_off :
    let early : Instant := ⟨0, 0, by decide, by decide, by decide⟩
    let now : Instant := ⟨60, 1234567, by decide, by decide, by decide⟩
    let cut : Instant := ⟨60, 1234000, by decide, by decide, by decide⟩
    let rule : Rule := ⟨⟨"a"⟩, ⟨"n", none, "c", "x", false⟩, early, early⟩
    let service : Service := { store := ⟨[rule]⟩ }
    let path := octets "/api/rules/a"
    let json : Headers := [("content-type", octets "application/json")]
    let moment : Moment := ⟨now, ⟨"b"⟩, 0⟩
    let shown := service.handle ⟨[]⟩ Outage.none moment ⟨"GET", path, [], []⟩
    let turn := shown.service.handle ⟨[]⟩ Outage.none moment
      ⟨"PUT", path, json, octets shown.response.body⟩
    service.store.Distinct ∧ rule ∈ service.store.rules ∧ rule.id.text ≠ "" ∧
      Text.trim rule.fields.name.toList ≠ [] ∧
      (octets rule.toJson.compact).length ≤ longestBody ∧ pathId? path = some rule.id ∧
      json.lookup "content-type" = some (octets "application/json") ∧
      turn.response.status = 200 ∧ turn.service.store.rules = [{ rule with updatedAt := cut }] := by
  intro early now cut rule service path json moment shown turn
  have distinct : service.store.Distinct := List.nodup_singleton _
  have kept : rule ∈ service.store.rules := List.mem_singleton_self _
  have named : rule.id.text ≠ "" := by decide
  have visible : Text.trim rule.fields.name.toList ≠ [] := by decide +kernel
  have size : (octets rule.toJson.compact).length ≤ longestBody := by decide +kernel
  have addressed : pathId? path = some rule.id := by decide +kernel
  have calm : ∀ operation, Outage.none.calls operation = none := fun _ => rfl
  have later : Instant.later now.floorMicros early = cut := by decide
  have rules : service.store.rules.map (fun r => if r.id = rule.id then
      { rule with updatedAt := Instant.later now.floorMicros rule.updatedAt } else r) =
        [{ rule with updatedAt := cut }] := by
    rw [← later]
    rfl
  have law := (rule_written_back distinct calm kept named visible size).2 path [] json
    ⟨[]⟩ moment moment addressed rfl
  exact ⟨distinct, kept, named, visible, size, addressed, rfl, law.2.2.1,
    law.2.2.2.2.1.trans rules⟩

end Service

end Rulebook

import Rulebook.Proofs.Record.Front
import Rulebook.Proofs.Service.Ledger

/-!
# What a Payload Is Taken For

There are two ways to read a payload. A text can be read as a whole, so that
nothing but blanks may stand behind the draft; and a request is read from the
front, so that the draft decides and the rest is not looked at. Whatever the
first way takes, the second takes for the same. It takes more: a draft that the
first way would take by itself is taken with anything behind it.

So the service refuses a payload exactly if no front part of it is a draft that
would be taken by itself. A rule is then kept with the fields of that part.

## Main definitions

* `fieldsOf?`: The fields of a text that is read as a whole.
* `Continued`: A body that goes on behind a draft that would be taken.

## Theorems

* `payload_eq_ok_iff`: What a request is taken for.
* `payload_law`: How payloads are answered, and what is kept of them.
* `continued_accepted`: A body that is refused as a whole, and taken.
-/

namespace Rulebook

namespace Service

open Http (Request)
open Json (skipBlanks)
open Record (parseRecord readRecord)
open Text (Octets)

/-- The fields of a text that is read as a whole. -/
def fieldsOf? (text : Octets) : Option Fields :=
  match parseRecord Draft.shape text with
  | .ok draft => draft.accept.toOption
  | .error _ => none

/-- A body that goes on behind a draft that would be taken by itself, and not
    with blanks only. -/
def Continued (body : Octets) : Prop :=
  ∃ document stray, body = document ++ stray ∧ (fieldsOf? document).isSome = true ∧
    skipBlanks stray ≠ []

theorem fieldsOf?_eq_some_iff {text : Octets} {fields : Fields} :
    fieldsOf? text = some fields ↔
      ∃ draft, parseRecord Draft.shape text = .ok draft ∧ draft.accept = .ok fields := by
  constructor
  · intro h
    unfold fieldsOf? at h
    split at h
    · next draft parse =>
      refine ⟨draft, parse, ?_⟩
      cases accept : draft.accept with
      | error fault => exact absurd h (by rw [accept]; exact Option.some_ne_none fields ∘ Eq.symm)
      | ok taken =>
        rw [accept] at h
        rw [Option.some.inj h]
    · exact absurd h (Option.some_ne_none fields).symm
  · rintro ⟨draft, parse, accept⟩
    simp only [fieldsOf?, parse, accept]
    rfl

/-! ## What a request is taken for -/

-- A payload that is JSON and fits is taken for the draft in front of it.
theorem payload_eq_ok_iff_readRecord {request : Request} (json : saysJson request = true)
    (fits : request.body.length ≤ longestBody) {fields : Fields} :
    payload request = .ok fields ↔
      ∃ draft, (∃ rest, readRecord Draft.shape request.body = .ok (draft, rest)) ∧
        draft.accept = .ok fields := by
  unfold payload readDraft
  rw [json, Bool.not_true, if_neg Bool.false_ne_true, if_neg (Nat.not_lt.2 fits)]
  cases read : readRecord Draft.shape request.body with
  | error fault =>
    simp only [reduceCtorEq, exists_false, false_and]
  | ok made =>
    rcases made with ⟨draft, rest⟩
    simp only [Except.ok.injEq, Prod.mk.injEq]
    cases accept : draft.accept with
    | error fault =>
      constructor
      · intro h
        exact absurd h (by simp only [reduceCtorEq, not_false_eq_true])
      · rintro ⟨_, ⟨_, rfl, _⟩, taken⟩
        rw [accept] at taken
        exact absurd taken (by simp only [reduceCtorEq, not_false_eq_true])
    | ok taken =>
      constructor
      · intro h
        have same : (.ok taken : Except Problem Fields) = .ok fields := h
        exact ⟨draft, ⟨rest, rfl, rfl⟩, by rw [accept, Except.ok.inj same]⟩
      · rintro ⟨_, ⟨_, rfl, _⟩, other⟩
        rw [accept] at other
        rw [Except.ok.inj other]

/-- A request is taken for the fields of a front part of its body that would be
    taken by itself. -/
theorem payload_eq_ok_iff {request : Request} (json : saysJson request = true)
    (fits : request.body.length ≤ longestBody) {fields : Fields} :
    payload request = .ok fields ↔
      ∃ document stray, request.body = document ++ stray ∧ fieldsOf? document = some fields := by
  rw [payload_eq_ok_iff_readRecord json fits]
  constructor
  · rintro ⟨draft, read, accept⟩
    rcases Record.exists_readRecord_iff.1 read with ⟨document, stray, body, parse⟩
    exact ⟨document, stray, body, fieldsOf?_eq_some_iff.2 ⟨draft, parse, accept⟩⟩
  · rintro ⟨document, stray, body, taken⟩
    rcases fieldsOf?_eq_some_iff.1 taken with ⟨draft, parse, accept⟩
    exact ⟨draft, Record.exists_readRecord_iff.2 ⟨document, stray, body, parse⟩, accept⟩

-- Blanks behind a text make no difference to what it is as a whole.
theorem fieldsOf?_append_blanks {document stray : Octets} {fields : Fields}
    (taken : fieldsOf? document = some fields) (blank : skipBlanks stray = []) :
    fieldsOf? (document ++ stray) = some fields := by
  rcases fieldsOf?_eq_some_iff.1 taken with ⟨draft, parse, accept⟩
  rcases Record.parseRecord_eq_ok_iff.1 parse with ⟨rest, read, atEnd⟩
  rcases Record.taken_readRecord read with ⟨front, rfl, hread⟩
  refine fieldsOf?_eq_some_iff.2 ⟨draft, ?_, accept⟩
  -- The draft is read as before, and the blanks come to those left behind it.
  refine Record.parseRecord_eq_ok_iff.2 ⟨rest ++ stray, ?_, ?_⟩
  · rw [List.append_assoc]
    exact hread (rest ++ stray)
  · rw [Json.skipBlanks_blanks_append (List.dropWhile_eq_nil_iff.1 atEnd), blank]

-- A body that goes on behind a draft is refused as a whole.
theorem fieldsOf?_of_continued {body : Octets} (h : Continued body) : fieldsOf? body = none := by
  rcases h with ⟨document, stray, rfl, taken, visible⟩
  rcases Option.isSome_iff_exists.1 taken with ⟨fields, taken⟩
  rcases fieldsOf?_eq_some_iff.1 taken with ⟨draft, parse, -⟩
  rcases Record.parseRecord_eq_ok_iff.1 parse with ⟨rest, read, atEnd⟩
  rcases Record.taken_readRecord read with ⟨front, rfl, hread⟩
  cases whole : fieldsOf? (front ++ rest ++ stray) with
  | none => rfl
  | some other =>
    rcases fieldsOf?_eq_some_iff.1 whole with ⟨_, parse, -⟩
    rcases Record.parseRecord_eq_ok_iff.1 parse with ⟨left, readWhole, blank⟩
    -- The draft is read in front of `stray` too, so that is what is left.
    rw [List.append_assoc, hread, Except.ok.injEq, Prod.mk.injEq] at readWhole
    rw [← readWhole.2, Json.skipBlanks_blanks_append (List.dropWhile_eq_nil_iff.1 atEnd)] at blank
    exact absurd blank visible

-- Exactly the bodies that are taken as a whole or go on behind a draft are
-- taken at all.
theorem exists_payload_eq_ok_iff {request : Request} (json : saysJson request = true)
    (fits : request.body.length ≤ longestBody) :
    (∃ fields, payload request = .ok fields) ↔
      (fieldsOf? request.body).isSome = true ∨ Continued request.body := by
  constructor
  · rintro ⟨fields, h⟩
    rcases (payload_eq_ok_iff json fits).1 h with ⟨document, stray, body, taken⟩
    by_cases blank : skipBlanks stray = []
    · left
      rw [body, fieldsOf?_append_blanks taken blank]
      rfl
    · right
      exact ⟨document, stray, body, by rw [taken]; rfl, blank⟩
  · rintro (whole | ⟨document, stray, body, taken, -⟩)
    · rcases Option.isSome_iff_exists.1 whole with ⟨fields, taken⟩
      exact ⟨fields, (payload_eq_ok_iff json fits).2
        ⟨request.body, [], (List.append_nil _).symm, taken⟩⟩
    · rcases Option.isSome_iff_exists.1 taken with ⟨fields, taken⟩
      exact ⟨fields, (payload_eq_ok_iff json fits).2 ⟨document, stray, body, taken⟩⟩

-- A payload is refused as a bad request.
theorem status_of_payload_error {request : Request} {problem : Problem}
    (h : payload request = .error problem) : problem.status = 400 := by
  unfold payload at h
  cases read : readDraft request with
  | error fault =>
    simp only [read, Except.error.injEq] at h
    rw [← h]
    rfl
  | ok draft =>
    cases taken : draft.accept with
    | error fault =>
      simp only [read, taken, Except.error.injEq] at h
      rw [← h]
      rfl
    | ok fields => simp only [read, taken, reduceCtorEq] at h

/-! ## How payloads are answered -/

section

variable {service : Service} {outage : Outage} {request : Request} {fields : Fields}

-- A payload that is taken is filed, unless its identifier is taken.
theorem filed (asks : Asks request .create) (distinct : service.store.Distinct)
    (calm : outage.calls .create = none) (taken : payload request = .ok fields)
    (origins : Origins) (moment : Moment) :
    let turn := service.handle origins outage moment request
    match service.store.find? moment.newId with
    | none => turn.response.status = 201 ∧ turn.service.store.rules =
        service.store.rules ++ [Rule.create moment.newId fields moment.now]
    | some _ => turn.response.status = 500 ∧ turn.service.store.rules = service.store.rules := by
  intro turn
  have settled := handle_of_asks asks distinct origins outage moment
  simp only [outcome_create, taken, calm] at settled
  cases found : service.store.find? moment.newId with
  | none =>
    simp only [found, Option.isSome_none, Bool.false_eq_true, if_false] at settled
    exact settled
  | some rule =>
    simp only [found, Option.isSome_some, if_true] at settled
    exact settled

-- A payload that is taken is put into the place of the rule that is there.
theorem replaced {id : RuleId} {rule : Rule} (asks : Asks request (.update id))
    (distinct : service.store.Distinct) (calm : outage.calls .update = none)
    (taken : payload request = .ok fields) (found : service.store.find? id = some rule)
    (origins : Origins) (moment : Moment) :
    let turn := service.handle origins outage moment request
    turn.response.status = 200 ∧ turn.service.store.rules =
      service.store.rules.map fun r => if r.id = id then rule.apply fields moment.now else r := by
  intro turn
  have settled := handle_of_asks asks distinct origins outage moment
  simp only [outcome_update, taken, calm, found] at settled
  have hid : (rule.apply fields moment.now).id = id := (Store.mem_of_find?_eq_some found).2
  refine ⟨settled.1, settled.2.trans ?_⟩
  simp only [entered, Success.enter, hid]

-- A payload is refused exactly if it is neither taken as a whole nor goes on
-- behind a draft that would be.
theorem payload_refused_iff (json : saysJson request = true)
    (fits : request.body.length ≤ longestBody) :
    (∃ problem, payload request = .error problem) ↔
      fieldsOf? request.body = none ∧ ¬ Continued request.body := by
  have accepted := exists_payload_eq_ok_iff json fits
  cases h : payload request with
  | error problem =>
    rw [h] at accepted
    simp only [reduceCtorEq, exists_false, false_iff, not_or, Bool.not_eq_true,
      Option.isSome_eq_false_iff, Option.isNone_iff_eq_none] at accepted
    exact ⟨fun _ => accepted, fun _ => ⟨problem, rfl⟩⟩
  | ok fields =>
    constructor
    · rintro ⟨problem, h⟩
      exact absurd h (by simp only [reduceCtorEq, not_false_eq_true])
    · rintro ⟨whole, continued⟩
      rcases accepted.1 ⟨fields, h⟩ with taken | goesOn
      · rw [whole] at taken
        exact absurd taken Bool.false_ne_true
      · exact absurd goesOn continued

-- A bad request is answered exactly if the payload is refused.
theorem status_eq_bad_request_iff {inquiry : Inquiry} (asks : Asks request inquiry)
    (distinct : service.store.Distinct) (origins : Origins) (moment : Moment)
    (refused : ∀ problem, payload request = .error problem →
      service.outcome outage moment request inquiry = .error problem)
    (taken : ∀ fields, payload request = .ok fields →
      (service.handle origins outage moment request).response.status ≠ 400) :
    (service.handle origins outage moment request).response.status = 400 ↔
      ∃ problem, payload request = .error problem := by
  constructor
  · intro status
    cases h : payload request with
    | error problem => exact ⟨problem, rfl⟩
    | ok fields => exact absurd status (taken fields h)
  · rintro ⟨problem, h⟩
    rw [(handle_of_asks asks distinct origins outage moment).1, refused problem h]
    exact status_of_payload_error h

-- A filing is answered as a bad request exactly for these bodies.
theorem filing_refused_iff (asks : Asks request .create) (distinct : service.store.Distinct)
    (calm : outage.calls .create = none) (json : saysJson request = true)
    (fits : request.body.length ≤ longestBody) (origins : Origins) (moment : Moment) :
    (service.handle origins outage moment request).response.status = 400 ↔
      fieldsOf? request.body = none ∧ ¬ Continued request.body := by
  rw [← payload_refused_iff json fits]
  refine status_eq_bad_request_iff asks distinct origins moment ?_ ?_
  · intro problem refused
    rw [outcome_create, refused]
  · intro fields taken
    -- A draft that is taken is filed or meets its identifier, and neither is 400.
    have result := filed asks distinct calm taken origins moment
    simp only at result
    split at result
    · rw [result.1]
      decide
    · rw [result.1]
      decide

-- So is a replacement of a rule that is there.
theorem replacing_refused_iff {id : RuleId} {rule : Rule} (asks : Asks request (.update id))
    (distinct : service.store.Distinct) (calm : outage.calls .update = none)
    (found : service.store.find? id = some rule) (json : saysJson request = true)
    (fits : request.body.length ≤ longestBody) (origins : Origins) (moment : Moment) :
    (service.handle origins outage moment request).response.status = 400 ↔
      fieldsOf? request.body = none ∧ ¬ Continued request.body := by
  rw [← payload_refused_iff json fits]
  refine status_eq_bad_request_iff asks distinct origins moment ?_ ?_
  · intro problem refused
    rw [outcome_update, refused]
  · intro fields taken
    rw [(replaced asks distinct calm taken found origins moment).1]
    decide

end

-- If a bad request is answered exactly where a body is neither taken as a whole
-- nor goes on behind a draft, then it is answered for what the body is as a
-- whole exactly where the body does not go on.
theorem agrees_iff_not_continued {status : Nat} {body : Octets}
    (h : status = 400 ↔ fieldsOf? body = none ∧ ¬ Continued body) :
    (status = 400 ↔ fieldsOf? body = none) ↔ ¬ Continued body := by
  constructor
  · intro agrees continued
    have bad := agrees.2 (fieldsOf?_of_continued continued)
    exact (h.1 bad).2 continued
  · intro stops
    exact ⟨fun bad => (h.1 bad).1, fun whole => h.2 ⟨whole, stops⟩⟩

/-- In every service that can come about, while nothing fails, payloads that say
    that they are JSON and fit are answered as follows, be it that a rule is
    filed or that one is replaced. A bad request is answered for exactly those
    bodies that would be refused as a whole, unless the body goes on behind a
    draft that would be taken: it is then taken for that draft. The rule that is
    kept has the fields of the draft, be it the whole body or a part of it. -/
theorem payload_law (origins : Origins) {start : World} (distinct : start.service.store.Distinct)
    (steps : List Step)
    (calm : ∀ operation, (start.run origins steps).outage.calls operation = none)
    (moment : Moment) {request : Request} (json : saysJson request = true)
    (fits : request.body.length ≤ longestBody) :
    let world := start.run origins steps
    let turn := world.turn origins moment request
    let before := world.service.store
    let after := turn.service.store
    let bad := turn.response.status = 400
    let agrees := bad ↔ fieldsOf? request.body = none
    (request.method = "POST" → request.path = Route.rulesPath →
      (agrees ↔ ¬ Continued request.body) ∧ (Continued request.body → ¬ bad) ∧
        ∀ document stray fields, request.body = document ++ stray →
          fieldsOf? document = some fields →
          match before.find? moment.newId with
          | none => turn.response.status = 201 ∧
              after.rules = before.rules ++ [Rule.create moment.newId fields moment.now]
          | some _ => turn.response.status = 500 ∧ after.rules = before.rules) ∧
      ∀ id rule, request.method = "PUT" → pathId? request.path = some id →
        before.find? id = some rule →
        (agrees ↔ ¬ Continued request.body) ∧ (Continued request.body → ¬ bad) ∧
          ∀ document stray fields, request.body = document ++ stray →
            fieldsOf? document = some fields →
            turn.response.status = 200 ∧ after.rules =
              before.rules.map fun r => if r.id = id then rule.apply fields moment.now else r := by
  intro world turn before after bad agrees
  have distinct : before.Distinct := World.distinct_run origins distinct steps
  refine ⟨fun method path => ?_, fun id rule method path found => ?_⟩
  · have asks : Asks request .create := ⟨path, method⟩
    have refused : bad ↔ fieldsOf? request.body = none ∧ ¬ Continued request.body :=
      filing_refused_iff asks distinct (calm .create) json fits origins moment
    refine ⟨agrees_iff_not_continued refused, fun continued bad => (refused.1 bad).2 continued,
      fun document stray fields body whole => ?_⟩
    have taken := (payload_eq_ok_iff json fits).2 ⟨document, stray, body, whole⟩
    exact filed asks distinct (calm .create) taken origins moment
  · have asks : Asks request (.update id) := ⟨path, method⟩
    have refused : bad ↔ fieldsOf? request.body = none ∧ ¬ Continued request.body :=
      replacing_refused_iff asks distinct (calm .update) found json fits origins moment
    refine ⟨agrees_iff_not_continued refused, fun continued bad => (refused.1 bad).2 continued,
      fun document stray fields body whole => ?_⟩
    have taken := (payload_eq_ok_iff json fits).2 ⟨document, stray, body, whole⟩
    exact replaced asks distinct (calm .update) taken found origins moment

-- A draft that stands alone is filed by a service without rules.
theorem payload_law_alone :
    let now : Instant := ⟨0, 0, by decide, by decide, by decide⟩
    let moment : Moment := ⟨now, ⟨"a"⟩, 0⟩
    let fields : Fields := ⟨"n", none, "c", "x", true⟩
    let request : Request :=
      { method := "POST"
        path := Route.rulesPath
        headers := [("content-type", Text.octets "application/json")]
        body := Text.octets "[\"n\", null, \"c\", \"x\", true]" }
    let turn := (World.run ⟨[]⟩ {} []).turn ⟨[]⟩ moment request
    saysJson request = true ∧ request.body.length ≤ longestBody ∧
      fieldsOf? request.body = some fields ∧
      turn.response.status = 201 ∧
      turn.service.store.rules = [] ++ [Rule.create ⟨"a"⟩ fields now] := by
  intro now moment fields request turn
  have json : saysJson request = true := by decide +kernel
  have fits : request.body.length ≤ longestBody := by decide +kernel
  have taken : fieldsOf? request.body = some fields := by decide +kernel
  have empty : ({} : World).service.store.Distinct := Store.distinct_empty
  have law := payload_law ⟨[]⟩ empty [] (fun _ => rfl) moment json fits
  exact ⟨json, fits, taken,
    (law.1 rfl rfl).2.2 request.body [] fields (List.append_nil _).symm taken⟩

/-- A body that would be refused as a whole is taken for the draft in front. -/
theorem continued_accepted :
    let now : Instant := ⟨0, 0, by decide, by decide, by decide⟩
    let request : Request :=
      { method := "POST"
        path := Route.rulesPath
        headers := [("content-type", Text.octets "application/json")]
        body := Text.octets "\x7b\"name\":\"x\",\"condition\":\"c\",\"action\":\"a\"\x7d x" }
    let turn := World.turn ⟨[]⟩ {} ⟨now, ⟨"a"⟩, 0⟩ request
    saysJson request = true ∧ request.body.length ≤ longestBody ∧
      fieldsOf? request.body = none ∧ turn.response.status = 201 := by
  decide +kernel

end Service

end Rulebook

import Rulebook.Proofs.Service.Ledger
import Rulebook.Proofs.Tally.Exposition

/-!
# The Counts Are Right

The counts are kept inside the service, but what they count is seen outside: which
requests about rules were answered, and how. So they can be checked against the
transcript of a run, and that is what is done here. A success is counted under the
operation that was asked for, a problem under its kind, which shows in the status
of the answer, and everything else is not counted at all. Only the words that hold
the counts are finite, so the numbers agree up to multiples of their size.

The counts say something of the rules, too. A filing that succeeds adds one rule,
and a removal that succeeds takes one away: one and not several, because no
identifier is there twice. So the rules are as many as there were at first and
were filed since, less those that were removed.

## Main definitions

* `operation?`: The operation on rules that a request asks for.
* `isSuccess`, `isAnswered`: Which exchanges a count stands for.
* `Tally.problems`: The count of the problems with a status.

## Theorems

* `tally_handle`: A request is counted once if it is about rules, else not at all.
* `successes_handle`, `problems_handle`: One exchange changes each count as it
  should.
* `successes_run`, `problems_run`: So does a run, by its transcript.
* `length_handle`, `length_run`: Filings and removals change the number of rules.
* `shown_counts`: Whoever asks for the counts is shown them.
* `accounts_settle`: Behind every run the counts are right, and are shown.
-/

namespace Rulebook

open Http (Request Response)

/-- The count of the problems that are answered with a status. -/
def Tally.problems (t : Tally) (status : Nat) : UInt64 :=
  if status = 400 then t.invalid
  else if status = 404 then t.notFound
  else if status = 500 then t.store
  else 0

namespace Service

/-- The operation on rules that a request asks for. -/
def operation? (request : Request) : Option Operation :=
  (inquiry? request).map Inquiry.operation

/-- Whether an exchange is a success of an operation. -/
def isSuccess (operation : Operation) : Request × Response → Bool
  | (request, response) =>
    operation? request = some operation && 200 ≤ response.status && response.status < 300

/-- Whether an exchange is about rules and was answered with a status. -/
def isAnswered (status : Nat) : Request × Response → Bool
  | (request, response) => (operation? request).isSome && response.status = status

/-! ## One exchange -/

-- The status of a success is one of the two-hundreds.
theorem status_success (success : Success) :
    200 ≤ success.response.status ∧ success.response.status < 300 := by
  cases success <;> simp only [Success.response, Response.ofJson] <;> decide

-- The status of a problem is not.
theorem le_status_problem (problem : Problem) : 300 ≤ problem.status := by
  cases problem <;> simp only [Problem.status] <;> decide

/-- A request is counted once if it is about rules, and else not at all. -/
theorem tally_handle (service : Service) (origins : Origins) (outage : Outage) (moment : Moment)
    (request : Request) :
    (service.handle origins outage moment request).service.tally =
      match inquiry? request with
      | none => service.tally
      | some inquiry =>
        service.tally.track inquiry.operation (service.outcome outage moment request inquiry) := by
  cases h : inquiry? request with
  | none => rw [service_handle_of_inquiry?_none h]
  | some inquiry =>
    rw [handle_of_inquiry? h, carryOut_eq]
    rfl

-- The status of an answer to an inquiry is that of its outcome.
theorem status_handle {request : Request} {inquiry : Inquiry} (h : inquiry? request = some inquiry)
    (service : Service) (origins : Origins) (outage : Outage) (moment : Moment) :
    (service.handle origins outage moment request).response.status =
      (outcomeResponse (service.outcome outage moment request inquiry)).status := by
  rw [response_of_asks (inquiry?_eq_some_iff.1 h), status_sent]

-- Whether an exchange is a success, its outcome tells.
theorem isSuccess_eq {request : Request} {response : Response} {inquiry : Inquiry}
    {outcome : Except Problem Success} (h : inquiry? request = some inquiry)
    (hstatus : response.status = (outcomeResponse outcome).status) (operation : Operation) :
    isSuccess operation (request, response) =
      (decide (inquiry.operation = operation) && outcome.isOk) := by
  have asked : operation? request = some inquiry.operation := by
    rw [operation?, h]
    rfl
  simp only [isSuccess, asked, hstatus, Option.some.injEq]
  cases outcome with
  | ok success =>
    have status := status_success success
    simp only [outcomeResponse, status.1, status.2, decide_true, Bool.and_true, Except.isOk,
      Except.toBool]
  | error problem =>
    have status : ¬ (problemResponse problem).status < 300 :=
      Nat.not_lt.2 (le_status_problem problem)
    simp only [outcomeResponse, status, decide_false, Bool.and_false, Except.isOk, Except.toBool]

-- With which status it was answered, its outcome tells too.
theorem isAnswered_eq {request : Request} {response : Response} {inquiry : Inquiry}
    {outcome : Except Problem Success} (h : inquiry? request = some inquiry)
    (hstatus : response.status = (outcomeResponse outcome).status) (status : Nat) :
    isAnswered status (request, response) = decide ((outcomeResponse outcome).status = status) := by
  simp only [isAnswered, operation?, h, Option.map_some, Option.isSome_some, Bool.true_and, hstatus]

-- What asks nothing about rules is neither a success nor a problem.
theorem isSuccess_of_inquiry?_none {request : Request} (h : inquiry? request = none)
    (operation : Operation) (response : Response) :
    isSuccess operation (request, response) = false := by
  simp only [isSuccess, operation?, h, Option.map_none, reduceCtorEq, decide_false, Bool.false_and]

theorem isAnswered_of_inquiry?_none {request : Request} (h : inquiry? request = none)
    (status : Nat) (response : Response) : isAnswered status (request, response) = false := by
  simp only [isAnswered, operation?, h, Option.map_none, Option.isSome_none, Bool.false_and]

theorem successes_track (t : Tally) (asked operation : Operation)
    (outcome : Except Problem Success) :
    (t.track asked outcome).successes operation = t.successes operation +
      if (decide (asked = operation) && outcome.isOk) = true then 1 else 0 := by
  cases outcome with
  | ok success =>
    rw [Tally.track_ok, Tally.successes_success]
    by_cases same : asked = operation
    · simp only [same, if_true, decide_true, Except.isOk, Except.toBool, Bool.and_self]
    · simp only [same, if_false, decide_false, Bool.false_and, Bool.false_eq_true,
        UInt64.add_zero]
  | error problem =>
    have kept : (t.problem problem).successes operation = t.successes operation := by
      cases problem <;> cases operation <;> rfl
    simp only [Tally.track_error, kept, Except.isOk, Except.toBool, Bool.and_false,
      Bool.false_eq_true, if_false, UInt64.add_zero]

theorem problems_track (t : Tally) (asked : Operation) (outcome : Except Problem Success)
    {status : Nat} (hstatus : 300 ≤ status) :
    (t.track asked outcome).problems status = t.problems status +
      if decide ((outcomeResponse outcome).status = status) = true then 1 else 0 := by
  cases outcome with
  | ok success =>
    -- A success is no problem, and is answered with no status of one.
    have kept : (t.success asked).problems status = t.problems status := by
      cases asked <;> rfl
    have differs : (outcomeResponse (.ok success)).status ≠ status :=
      Nat.ne_of_lt (Nat.lt_of_lt_of_le (status_success success).2 hstatus)
    simp only [Tally.track_ok, kept, differs, decide_false, Bool.false_eq_true, if_false,
      UInt64.add_zero]
  | error problem =>
    have sent : (outcomeResponse (.error problem)).status = problem.status := rfl
    simp only [Tally.track_error, sent, decide_eq_true_eq]
    by_cases same : problem.status = status
    · subst same
      rw [if_pos rfl]
      cases problem <;> rfl
    · rw [if_neg same, UInt64.add_zero]
      cases problem <;> simp only [Problem.status] at same <;>
        simp only [Tally.problem, Tally.problems, Ne.symm same, if_false]

/-- One exchange is counted as a success of an operation if it is one. -/
theorem successes_handle (operation : Operation) (service : Service) (origins : Origins)
    (outage : Outage) (moment : Moment) (request : Request) :
    let turn := service.handle origins outage moment request
    turn.service.tally.successes operation = service.tally.successes operation +
      if isSuccess operation (request, turn.response) = true then 1 else 0 := by
  intro turn
  have counted : turn.service.tally = _ := tally_handle service origins outage moment request
  rw [counted]
  cases h : inquiry? request with
  | none => simp only [isSuccess_of_inquiry?_none h, Bool.false_eq_true, if_false, UInt64.add_zero]
  | some inquiry =>
    rw [isSuccess_eq h (status_handle h service origins outage moment)]
    exact successes_track service.tally inquiry.operation operation _

/-- One exchange is counted as a problem of a kind if it is answered as one. -/
theorem problems_handle {status : Nat} (hstatus : 300 ≤ status) (service : Service)
    (origins : Origins) (outage : Outage) (moment : Moment) (request : Request) :
    let turn := service.handle origins outage moment request
    turn.service.tally.problems status = service.tally.problems status +
      if isAnswered status (request, turn.response) = true then 1 else 0 := by
  intro turn
  have counted : turn.service.tally = _ := tally_handle service origins outage moment request
  rw [counted]
  cases h : inquiry? request with
  | none => simp only [isAnswered_of_inquiry?_none h, Bool.false_eq_true, if_false, UInt64.add_zero]
  | some inquiry =>
    rw [isAnswered_eq h (status_handle h service origins outage moment)]
    exact problems_track service.tally inquiry.operation _ hstatus

/-! ## The number of rules -/

-- A removal of a rule that is there leaves one rule less.
theorem length_delete {store : Store} (distinct : store.Distinct) {id : RuleId}
    (h : (store.find? id).isSome = true) :
    (store.delete id).rules.length + 1 = store.rules.length := by
  have split :=
    List.length_eq_length_filter_add (l := store.rules) fun rule => decide (rule.id = id)
  have one : (store.rules.filter fun rule => decide (rule.id = id)).length = 1 := by
    rw [Store.filter_id distinct]
    rcases Option.isSome_iff_exists.1 h with ⟨rule, hrule⟩
    rw [hrule]
    rfl
  have rest : (store.delete id).rules =
      store.rules.filter fun rule => !decide (rule.id = id) := by
    rw [Store.rules_delete]
    exact List.filter_congr fun rule _ => by simp only [ne_eq, decide_not]
  rw [rest, split, one, Nat.add_comm]

/-- One exchange changes the number of rules by one at most: a filing that
    succeeds adds a rule, and a removal that succeeds takes one away. -/
theorem length_handle {service : Service} (distinct : service.store.Distinct) (origins : Origins)
    (outage : Outage) (moment : Moment) (request : Request) :
    let turn := service.handle origins outage moment request
    let exchange := (request, turn.response)
    turn.service.store.rules.length + (if isSuccess .delete exchange = true then 1 else 0) =
      service.store.rules.length + (if isSuccess .create exchange = true then 1 else 0) := by
  intro turn exchange
  have stored : turn.service.store = _ := store_handle service origins outage moment request
  rw [stored]
  cases h : inquiry? request with
  | none =>
    simp only [exchange, isSuccess_of_inquiry?_none h]
  | some inquiry =>
    have success := isSuccess_eq h (status_handle h service origins outage moment)
    simp only
    rw [rules_storeAfter distinct, success, success]
    cases houtcome : service.outcome outage moment request inquiry with
    | error problem => simp only [entered, Except.isOk, Except.toBool, Bool.and_false]
    | ok done =>
      have yields := yields_of_outcome houtcome
      simp only [entered, Except.isOk, Except.toBool, Bool.and_true, decide_eq_true_eq]
      -- A success is of the kind that was asked for, and only two kinds change the
      -- number of rules.
      cases inquiry with
      | list =>
        cases done with
        | listed rules => rfl
        | _ => exact yields.elim
      | get id =>
        cases done with
        | fetched rule => rfl
        | _ => exact yields.elim
      | create =>
        cases done with
        | created rule =>
          simp only [Success.enter, List.length_append, List.length_singleton, Inquiry.operation,
            reduceCtorEq, if_true, if_false, Nat.add_zero]
        | _ => exact yields.elim
      | update id =>
        cases done with
        | updated rule =>
          simp only [Success.enter, List.length_map, Inquiry.operation, reduceCtorEq, if_false]
        | _ => exact yields.elim
      | delete id =>
        cases done with
        | deleted other =>
          obtain rfl : other = id := yields
          have less := length_delete distinct ((outcome_delete_eq_ok houtcome).1)
          rw [Store.rules_delete] at less
          simp only [Success.enter, Inquiry.operation, reduceCtorEq, if_true, if_false, less,
            Nat.add_zero]
        | _ => exact yields.elim

/-! ## Whole runs -/

/-- What every exchange adds to a count, a run adds for its transcript. -/
theorem count_run (origins : Origins) (count : Tally → UInt64) {counted : Request × Response → Bool}
    (step : ∀ (service : Service) (outage : Outage) (moment : Moment) (request : Request),
      let turn := service.handle origins outage moment request
      count turn.service.tally = count service.tally +
        if counted (request, turn.response) = true then 1 else 0)
    (world : World) (steps : List Step) :
    count (world.run origins steps).service.tally = count world.service.tally +
      UInt64.ofNat ((world.transcript origins steps).countP counted) := by
  induction steps generalizing world with
  | nil => exact (UInt64.add_zero _).symm
  | cons next rest ih =>
    refine (ih (world.step origins next)).trans ?_
    cases next with
    | outage outage => rfl
    | request moment request =>
      have first : count (world.step origins (.request moment request)).service.tally =
          count world.service.tally +
            if counted (request, (world.turn origins moment request).response) = true
            then 1 else 0 :=
        step world.service world.outage moment request
      rw [first, World.transcript, List.countP_cons, UInt64.ofNat_add, UInt64.add_assoc,
        UInt64.add_comm (UInt64.ofNat _)]
      congr 2
      cases counted (request, (world.turn origins moment request).response) <;> rfl

/-- The count of an operation grows by the successes in the transcript of a run. -/
theorem successes_run (origins : Origins) (operation : Operation) (world : World)
    (steps : List Step) :
    (world.run origins steps).service.tally.successes operation =
      world.service.tally.successes operation +
        UInt64.ofNat ((world.transcript origins steps).countP (isSuccess operation)) :=
  count_run origins (·.successes operation)
    (fun service => successes_handle operation service origins) world steps

/-- The count of a kind of problems grows by those in the transcript of a run. -/
theorem problems_run (origins : Origins) {status : Nat} (hstatus : 300 ≤ status) (world : World)
    (steps : List Step) :
    (world.run origins steps).service.tally.problems status =
      world.service.tally.problems status +
        UInt64.ofNat ((world.transcript origins steps).countP (isAnswered status)) :=
  count_run origins (·.problems status)
    (fun service => problems_handle hstatus service origins) world steps

/-- What filings and removals do to the number of rules, they do over a run. -/
theorem length_run (origins : Origins) {world : World} (distinct : world.service.store.Distinct)
    (steps : List Step) :
    (world.run origins steps).service.store.rules.length +
        (world.transcript origins steps).countP (isSuccess .delete) =
      world.service.store.rules.length +
        (world.transcript origins steps).countP (isSuccess .create) := by
  induction steps generalizing world with
  | nil => rfl
  | cons next rest ih =>
    have keeps : (world.step origins next).service.store.Distinct :=
      World.distinct_run origins distinct [next]
    have later := ih keeps
    cases next with
    | outage outage => exact later
    | request moment request =>
      have first : (world.step origins (.request moment request)).service.store.rules.length +
          (if isSuccess .delete (request, (world.turn origins moment request).response) = true
            then 1 else 0) =
          world.service.store.rules.length +
          (if isSuccess .create (request, (world.turn origins moment request).response) = true
            then 1 else 0) :=
        length_handle distinct origins world.outage moment request
      have run : world.run origins (.request moment request :: rest) =
        (world.step origins (.request moment request)).run origins rest := rfl
      rw [World.transcript, List.countP_cons, List.countP_cons, run]
      omega

/-! ## What is shown of the counts -/

-- Whoever asks for the counts is shown them.
theorem shown_counts {service : Service} {origins : Origins} {outage : Outage} {moment : Moment}
    {request : Request} (method : request.method = "GET")
    (path : request.path = Text.octets "/metrics") :
    let response := (service.handle origins outage moment request).response
    response.status = 200 ∧ Tally.Shown service.tally moment.uptime response.body := by
  intro response
  have action : action? request = some .metrics := by
    simp only [action?, path, method]
    decide +kernel
  have seen : response =
      sent origins request (.plain 200 (service.tally.exposition moment.uptime)) := by
    simp only [response, handle_of_action? action]
    rfl
  rw [seen, status_sent, body_sent origins (by rw [method]; decide)]
  exact ⟨rfl, Tally.shown_exposition service.tally moment.uptime⟩

/-- Whatever is asked of a service that starts with rules of distinct identifiers
    and with nothing counted, and whatever fails in between: each count of
    successes is the number of requests of its operation that were answered with a
    success, and each count of problems the number of requests about rules that
    were answered with its status, as far as words of sixty-four bits can tell.
    The rules are as many as there were at first and have been filed since, less
    those that were removed. A request that asks nothing about rules is not
    counted, and one for the counts is shown each of them behind its own label. -/
theorem accounts_settle (origins : Origins) {seeds : List Rule}
    (distinct : (seeds.map (·.id)).Nodup) (outage : Outage) (steps : List Step) :
    let start : World := { service := { store := ⟨seeds⟩ }, outage }
    let world := start.run origins steps
    let rules := world.service.store.rules
    let tally := world.service.tally
    let number (counted : Request × Response → Bool) : Nat :=
      (start.transcript origins steps).countP counted
    (∀ operation : Operation,
      tally.successes operation = UInt64.ofNat (number (isSuccess operation))) ∧
      tally.invalid = UInt64.ofNat (number (isAnswered 400)) ∧
      tally.notFound = UInt64.ofNat (number (isAnswered 404)) ∧
      tally.store = UInt64.ofNat (number (isAnswered 500)) ∧
      rules.length + number (isSuccess .delete) = seeds.length + number (isSuccess .create) ∧
      UInt64.ofNat rules.length = UInt64.ofNat seeds.length + tally.created - tally.deleted ∧
      ∀ (moment : Moment) (request : Request),
        let turn := world.turn origins moment request
        ((∀ inquiry, ¬ Asks request inquiry) → turn.service.tally = tally) ∧
        (request.method = "GET" → request.path = Text.octets "/metrics" →
          turn.response.status = 200 ∧
            Tally.Shown tally moment.uptime turn.response.body) := by
  intro start world rules tally number
  have successes : ∀ operation,
      tally.successes operation = UInt64.ofNat (number (isSuccess operation)) := by
    intro operation
    have zero : start.service.tally.successes operation = 0 := by cases operation <;> rfl
    rw [successes_run origins operation start steps, zero, UInt64.zero_add]
  have problems : ∀ status, 300 ≤ status →
      tally.problems status = UInt64.ofNat (number (isAnswered status)) := by
    intro status hstatus
    have zero : start.service.tally.problems status = 0 := by
      simp only [start, Tally.problems, ite_self]
    rw [problems_run origins hstatus start steps, zero, UInt64.zero_add]
  have length : rules.length + number (isSuccess .delete) =
      seeds.length + number (isSuccess .create) := by
    have startDistinct : start.service.store.Distinct := distinct
    exact length_run origins startDistinct steps
  refine ⟨successes, problems 400 (by decide), problems 404 (by decide), problems 500 (by decide),
    length, ?_, fun moment request => ⟨fun asksNot => ?_, fun method path => ?_⟩⟩
  · have created : tally.created = _ := successes .create
    have deleted : tally.deleted = _ := successes .delete
    rw [created, deleted, ← UInt64.ofNat_add, ← length, UInt64.ofNat_add, UInt64.add_sub_cancel]
  · have asksNothing : inquiry? request = none := by
      rw [Option.eq_none_iff_forall_ne_some]
      exact fun inquiry h => asksNot inquiry (inquiry?_eq_some_iff.1 h)
    rw [World.turn, service_handle_of_inquiry?_none asksNothing]
  · exact shown_counts method path

-- The only rule of a service is removed: one removal is counted, and no rule is left.
theorem accounts_settle_removal :
    let now : Instant := ⟨0, 0, by decide, by decide, by decide⟩
    let seed := Rule.create ⟨"a"⟩ ⟨"n", none, "c", "x", true⟩ now
    let start : World := { service := { store := ⟨[seed]⟩ } }
    let removal : Request :=
      { method := "DELETE", path := Text.octets "/api/rules/a", headers := [], body := [] }
    let steps := [Step.request ⟨now, ⟨"b"⟩, 0⟩ removal]
    ([seed].map (·.id)).Nodup ∧
      (start.run ⟨[]⟩ steps).service.tally.successes .delete =
        UInt64.ofNat ((start.transcript ⟨[]⟩ steps).countP (isSuccess .delete)) ∧
      (start.transcript ⟨[]⟩ steps).countP (isSuccess .delete) = 1 := by
  intro now seed start removal steps
  have distinct : ([seed].map (·.id)).Nodup := List.nodup_singleton _
  exact ⟨distinct, (accounts_settle ⟨[]⟩ distinct Outage.none steps).1 .delete, by decide +kernel⟩

end Service
end Rulebook

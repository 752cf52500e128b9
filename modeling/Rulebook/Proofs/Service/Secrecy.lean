import Rulebook.Proofs.Service.Accounting
import Rulebook.Proofs.Service.Payload
import Rulebook.Proofs.Service.Twins

/-!
# What Is Not Said of Failures

A failure comes with a text, and the text may hold what no caller should read. The
service needs it for nothing: it asks whether a call has failed, and not why. So two
runs in which the same fails at the same times are answered alike to the last octet,
keep the same rules and count the same, whatever the failures say. The page of the
counts and the answer to whether the store is within reach are among the answers.

Only the log is told. Two kinds of events carry the text of a failure, one for calls
and one for the reach of the store, and apart from that text the logs of the two runs
are the same event by event. A call that fails is told of exactly once, with the
outermost text of its failure.

The argument follows a failure outward. `runUnder_alike` holds of the answer of the
store, `settled_alike` of what is made of it, and `handle_alike` of a whole turn; from
there on the runs are twins.

## Main definitions

* `Outage.Alike`: Outages in which the same fails.
* `callFailed`, `outOfReach`: The events that carry the text of a failure.
* `Reworded`: Events that differ in such a text at most.
* `Excused`: Outcomes that differ in a failure at most.
* `World.logs`: What the log is told in the turns of a run.

## Theorems

* `runUnder_alike`: A call leaves the same rules, and fails in both or in neither.
* `handle_alike`: A turn is answered in the same way.
* `events_of_failure`: A request about rules that fails is told of once.
* `failure_texts_hidden`: What failures say shows in the log alone.
-/

namespace Rulebook

open Http (Request Response)

/-- Two outages in which the same fails, be it for different reasons. -/
structure Outage.Alike (a b : Outage) : Prop where
  calls : ∀ operation, (a.calls operation).isSome = (b.calls operation).isSome
  reach : a.reach.isSome = b.reach.isSome

namespace Service

/-- What the log is told of a call that failed. -/
def callFailed (failure : Failure) : Log.Event where
  level := .error
  target := "expense_rules::api::error"
  message := "Storage operation failed"
  details := [("error", .shown failure.text)]

/-- What the log is told of a store that is out of reach. -/
def outOfReach (failure : Failure) : Log.Event where
  level := .warn
  target := routesTarget
  message := "Storage not reachable"
  details := [("backend", .quoted Store.backend), ("error", .shown failure.text)]

/-- Two events that are the same, or tell of failures that may say different things. -/
inductive Reworded : Log.Event → Log.Event → Prop
  | same (event : Log.Event) : Reworded event event
  | callFailed (a b : Failure) : Reworded (callFailed a) (callFailed b)
  | outOfReach (a b : Failure) : Reworded (outOfReach a) (outOfReach b)

/-- What the log is told in the turns of a run. -/
def World.logs (origins : Origins) (world : World) (steps : List Step) : List (List Log.Event) :=
  (world.turns origins steps).map (·.2.events)

/-- Two outcomes that are the same, or that are failures both. -/
inductive Excused : Except Problem Success → Except Problem Success → Prop
  | same (outcome : Except Problem Success) : Excused outcome outcome
  | failed (a b : Failure) : Excused (.error (.store a)) (.error (.store b))

/-- Two turns that differ at most in what the log is told of failures. -/
structure Turn.Alike (a b : Turn) : Prop where
  response : a.response = b.response
  service : a.service = b.service
  events : List.Forall₂ Reworded a.events b.events

theorem reworded_refl (events : List Log.Event) : List.Forall₂ Reworded events events :=
  List.forall₂_same.2 fun event _ => .same event

theorem Turn.Alike.refl (turn : Turn) : turn.Alike turn :=
  ⟨rfl, rfl, reworded_refl turn.events⟩

/-! ## One turn -/

section

variable {a b : Outage}

-- What is there in both or in neither.
theorem cases_of_isSome_eq {α : Type} {p q : Option α} (h : p.isSome = q.isSome) :
    (p = none ∧ q = none) ∨ ∃ x y, p = some x ∧ q = some y := by
  cases p with
  | none =>
    cases q with
    | none => exact .inl ⟨rfl, rfl⟩
    | some y => exact absurd h (by simp only [Option.isSome, Bool.false_eq_true, not_false_eq_true])
  | some x =>
    rcases Option.isSome_iff_exists.1 h.symm with ⟨y, rfl⟩
    exact .inr ⟨x, y, rfl, rfl⟩

/-- A call leaves the same rules behind, and comes to the same unless it fails in
    both. -/
theorem runUnder_alike (alike : a.Alike b) (store : Store) (call : Call) :
    (store.runUnder a call).2 = (store.runUnder b call).2 ∧
      Excused (conclude call (store.runUnder a call).1)
        (conclude call (store.runUnder b call).1) := by
  unfold Store.runUnder
  rcases cases_of_isSome_eq (alike.calls call.operation) with ⟨ha, hb⟩ | ⟨f, g, ha, hb⟩
  · rw [ha, hb]
    exact ⟨rfl, .same _⟩
  · rw [ha, hb]
    refine ⟨rfl, ?_⟩
    simp only [conclude_error]
    exact .failed f g

/-- Failures are answered and counted alike, and told of in the log alone. -/
theorem settled_alike (service : Service) (operation : Operation)
    {p q : Except Problem Success} (excused : Excused p q) :
    (service.settle operation p).Alike (service.settle operation q) := by
  cases excused with
  | same outcome => exact .refl _
  | failed f g => exact ⟨rfl, rfl, .cons (.callFailed f g) .nil⟩

theorem carryOut_alike (alike : a.Alike b) (service : Service) (moment : Moment)
    (request : Request) (inquiry : Inquiry) :
    (service.carryOut a moment request inquiry).Alike
      (service.carryOut b moment request inquiry) := by
  unfold carryOut
  cases inquiry.call request moment with
  | error problem => exact .refl _
  | ok call =>
    rcases runUnder_alike alike service.store call with ⟨store, excused⟩
    simp only [store]
    exact settled_alike _ inquiry.operation excused

theorem ready_alike (alike : a.Alike b) (service : Service) :
    (service.ready a).Alike (service.ready b) := by
  unfold ready
  rcases cases_of_isSome_eq alike.reach with ⟨ha, hb⟩ | ⟨f, g, ha, hb⟩
  · rw [ha, hb]
    exact .refl _
  · rw [ha, hb]
    exact ⟨rfl, rfl, .cons (.outOfReach f g) .nil⟩

theorem act_alike (alike : a.Alike b) (service : Service) (moment : Moment) (request : Request)
    (action : Action) :
    (service.act a moment request action).Alike (service.act b moment request action) := by
  cases action with
  | health | metrics => exact .refl _
  | ready => exact ready_alike alike service
  | list => exact carryOut_alike alike service moment request .list
  | create => exact carryOut_alike alike service moment request .create
  | get segment | update segment | delete segment =>
    simp only [act, onRule]
    cases ruleId? segment with
    | none => exact .refl _
    | some id => exact carryOut_alike alike service moment request _

/-- A request is answered in the same way, whatever failures say. -/
theorem handle_alike (alike : a.Alike b) (service : Service) (origins : Origins)
    (moment : Moment) (request : Request) :
    (service.handle origins a moment request).Alike
      (service.handle origins b moment request) := by
  cases haction : action? request with
  | none =>
    rw [handle_of_action?_none haction, handle_of_action?_none haction]
    exact .refl _
  | some action =>
    rw [handle_of_action? haction, handle_of_action? haction]
    have acts := act_alike alike service moment request action
    exact ⟨congrArg (sent origins request) acts.response, acts.service, acts.events⟩

end

/-! ## Failures in the log -/

-- What the store has answered is no failure of the store.
theorem status_conclude_ok (call : Call) (reply : call.Reply) :
    (outcomeResponse (conclude call (.ok reply))).status ≠ 500 := by
  have success (done : Success) : (outcomeResponse (.ok done)).status ≠ 500 :=
    Nat.ne_of_lt (Nat.lt_trans (status_success done).2 (by decide))
  have missing : (outcomeResponse (.error .notFound)).status ≠ 500 := by decide
  cases call with
  | list | create => exact success _
  | get | update =>
    cases reply with
    | none => exact missing
    | some rule => exact success _
  | delete =>
    cases reply with
    | false => exact missing
    | true => exact success _

-- A payload that is refused is no failure of the store.
theorem status_call_error {request : Request} {moment : Moment} {inquiry : Inquiry}
    {problem : Problem} (h : inquiry.call request moment = .error problem) :
    problem.status = 400 := by
  have refused {make : Fields → Call} (h : (payload request).map make = .error problem) :
      problem.status = 400 := by
    cases hpayload : payload request with
    | ok fields =>
      rw [hpayload] at h
      cases h
    | error other =>
      rw [hpayload] at h
      cases h
      exact status_of_payload_error hpayload
  cases inquiry with
  | list | get | delete =>
    simp only [Inquiry.call, reduceCtorEq] at h
  | create | update =>
    exact refused h

/-- A request about rules that is answered as a failure of the store has made a call
    that failed, and the log is told of it once, by the outermost text. -/
theorem events_of_failure {request : Request} {inquiry : Inquiry} (asks : Asks request inquiry)
    {service : Service} {origins : Origins} {outage : Outage} {moment : Moment}
    (failed : (service.handle origins outage moment request).response.status = 500) :
    ∃ call failure, inquiry.call request moment = .ok call ∧
      (service.store.runUnder outage call).1 = .error failure ∧
      (service.handle origins outage moment request).events = [callFailed failure] := by
  rw [response_of_asks asks, status_sent] at failed
  rw [handle_of_inquiry? (inquiry?_eq_some_iff.2 asks), carryOut_eq]
  simp only [settle]
  unfold outcome at failed ⊢
  cases hcall : inquiry.call request moment with
  | error problem =>
    rw [hcall] at failed
    have bad : problem.status = 400 := status_call_error hcall
    have status : problem.status = 500 := failed
    rw [bad] at status
    exact absurd status (by decide)
  | ok call =>
    rw [hcall] at failed
    simp only at failed ⊢
    cases hreply : (service.store.runUnder outage call).1 with
    | ok reply =>
      rw [hreply] at failed
      exact absurd failed (status_conclude_ok call reply)
    | error failure =>
      refine ⟨call, failure, rfl, hreply, ?_⟩
      rw [conclude_error]
      rfl

/-! ## Whole runs -/

/-- Two runs of one service with the same requests at the same moments, in which the
    same fails at the same times: every request is answered alike, with its status,
    its headers and its body, whatever the failures say, and the rules and the counts
    are the same. The logs differ in the texts of failures at most. Wherever the run
    has come to, a request about rules that is answered as a failure is told of by one
    event, which holds the outermost text of what the call has met. -/
theorem failure_texts_hidden (origins : Origins) {first second : World}
    (service : first.service = second.service) (outage : first.outage.Alike second.outage)
    {steps twins : List Step} (paired : List.Forall₂ (Step.Twin Outage.Alike Eq) steps twins) :
    first.transcript origins steps = second.transcript origins twins ∧
      (first.run origins steps).service = (second.run origins twins).service ∧
      List.Forall₂ (List.Forall₂ Reworded) (first.logs origins steps)
        (second.logs origins twins) ∧
      ∀ (moment : Moment) (request : Request) (inquiry : Inquiry), Asks request inquiry →
        let world := first.run origins steps
        let turn := world.turn origins moment request
        turn.response.status = 500 →
          ∃ call failure, inquiry.call request moment = .ok call ∧
            (world.service.store.runUnder world.outage call).1 = .error failure ∧
            turn.events = [callFailed failure] := by
  have together := twin_runs Outage.Alike Eq Turn.Alike origins origins
    (fun service moment _ _ r s alike same => by
      subst same
      have turns := handle_alike alike service origins moment r
      exact ⟨turns.service, turns⟩)
    service outage paired
  refine ⟨?_, together.1, ?_, fun moment request inquiry asks => ?_⟩
  · rw [World.transcript_eq_turns, World.transcript_eq_turns]
    refine List.forall₂_eq_eq_eq ▸ ?_
    rw [List.forall₂_map_left_iff, List.forall₂_map_right_iff]
    exact together.2.imp fun x y both => Prod.ext both.1 both.2.response
  · unfold World.logs
    rw [List.forall₂_map_left_iff, List.forall₂_map_right_iff]
    exact together.2.imp fun x y both => both.2.events
  · intro world turn failed
    exact events_of_failure asks failed

-- The same calls fail in two runs, each time for another reason: only the logs differ.
theorem failure_texts_hidden_reworded :
    let now : Instant := ⟨0, 0, by decide, by decide, by decide⟩
    let moment : Moment := ⟨now, ⟨"a"⟩, 0⟩
    let failing (text : String) : Outage :=
      { calls := fun _ => some { text }, reach := some { text } }
    let listing : Request :=
      { method := "GET", path := Route.rulesPath, headers := [], body := [] }
    let probe : Request := { listing with path := Text.octets "/api/ready" }
    let steps (text : String) : List Step :=
      [.outage (failing text), .request moment listing, .request moment probe]
    let start : World := {}
    let world := start.run ⟨[]⟩ (steps "first")
    let turn := world.turn ⟨[]⟩ moment listing
    List.Forall₂ (Step.Twin Outage.Alike Eq) (steps "first") (steps "second") ∧
      start.transcript ⟨[]⟩ (steps "first") = start.transcript ⟨[]⟩ (steps "second") ∧
      start.logs ⟨[]⟩ (steps "first") ≠ start.logs ⟨[]⟩ (steps "second") ∧
      Asks listing .list ∧ turn.response.status = 500 ∧
      ∃ call failure, Inquiry.list.call listing moment = .ok call ∧
        (world.service.store.runUnder world.outage call).1 = .error failure ∧
        turn.events = [callFailed failure] := by
  intro now moment failing listing probe steps start world turn
  have alike : (failing "first").Alike (failing "second") := ⟨fun _ => rfl, rfl⟩
  have calm : start.outage.Alike start.outage := ⟨fun _ => rfl, rfl⟩
  have paired : List.Forall₂ (Step.Twin Outage.Alike Eq) (steps "first") (steps "second") :=
    .cons (.outage alike) (.cons (.request moment rfl) (.cons (.request moment rfl) .nil))
  have asks : Asks listing .list := ⟨rfl, by decide⟩
  have failed : turn.response.status = 500 := by decide +kernel
  have hidden := failure_texts_hidden ⟨[]⟩ (rfl : start.service = start.service) calm paired
  exact ⟨paired, hidden.1, by decide +kernel, asks, failed,
    hidden.2.2.2 moment listing .list asks failed⟩

end Service

end Rulebook

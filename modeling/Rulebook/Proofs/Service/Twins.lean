import Mathlib.Data.List.Forall2
import Rulebook.Proofs.Service.Run

/-!
# Two Runs Side by Side

That something has no influence on what the service does is a statement about two
runs: they differ in it, and nothing of the difference is to be seen. Such runs are
twins. Their steps go in pairs, a request with a request and an outage with an
outage, and what is said of one pair of turns is said of all of them.

The rules and the counts of twins are the same after every pair of steps, and not
only alike. This is what carries the induction: of one turn it is enough to know how
it differs from its twin if both are taken by the same service.

What a request brings along is used in three ways only: its method and its path say
what is done, its payload may be filed, and its headers decide what its page is
granted. `act_congr` says the second for every action.

## Main definitions

* `World.turns`: The turns that a run takes.
* `Step.Twin`: Two steps of a kind.

## Theorems

* `transcript_eq_turns`: The transcript of a run is what is seen of its turns.
* `twin_runs`: Twins that start together stay together.
* `action?_congr`, `act_congr`: What is done hangs on the method, the path and the
  payload.
-/

namespace Rulebook

namespace Service

open Http (Request Response)

namespace World

/-- The turns that a run takes, each with its request. -/
def turns (origins : Origins) : World → List Step → List (Request × Turn)
  | _, [] => []
  | world, .request moment request :: rest =>
    (request, world.turn origins moment request) ::
      turns origins (world.step origins (.request moment request)) rest
  | world, .outage outage :: rest => turns origins (world.step origins (.outage outage)) rest

/-- The transcript of a run is what is seen of its turns. -/
theorem transcript_eq_turns (origins : Origins) (world : World) (steps : List Step) :
    world.transcript origins steps =
      (world.turns origins steps).map fun (request, turn) => (request, turn.response) := by
  induction steps generalizing world with
  | nil => rfl
  | cons step rest ih =>
    cases step with
    | request moment request =>
      rw [transcript, turns, List.map_cons, ih]
    | outage outage =>
      rw [transcript, turns, ih]

end World

/-- Two steps of a kind: requests at one moment that are related, or outages that
    are. -/
inductive Step.Twin (Outages : Outage → Outage → Prop) (Requests : Request → Request → Prop) :
    Step → Step → Prop
  | request (moment : Moment) {a b : Request} (related : Requests a b) :
    Step.Twin Outages Requests (.request moment a) (.request moment b)
  | outage {a b : Outage} (related : Outages a b) :
    Step.Twin Outages Requests (.outage a) (.outage b)

/-- Two runs whose steps go in pairs start together and stay together, if a service
    that takes two turns of a pair comes out the same. How the two turns are related
    then holds of every pair of turns. -/
theorem twin_runs (Outages : Outage → Outage → Prop) (Requests : Request → Request → Prop)
    (Turns : Turn → Turn → Prop) (origins other : Origins)
    (pair : ∀ (service : Service) (moment : Moment) {a b : Outage} {r s : Request},
      Outages a b → Requests r s →
        let turn := service.handle origins a moment r
        let twin := service.handle other b moment s
        turn.service = twin.service ∧ Turns turn twin)
    {first second : World} (service : first.service = second.service)
    (outage : Outages first.outage second.outage) {steps twins : List Step}
    (paired : List.Forall₂ (Step.Twin Outages Requests) steps twins) :
    (first.run origins steps).service = (second.run other twins).service ∧
      List.Forall₂ (fun a b => Requests a.1 b.1 ∧ Turns a.2 b.2)
        (first.turns origins steps) (second.turns other twins) := by
  induction paired generalizing first second with
  | nil => exact ⟨service, .nil⟩
  | cons head tail ih =>
    cases head with
    | outage related => exact ih service related
    | @request moment r s related =>
      have both : (first.turn origins moment r).service = (second.turn other moment s).service ∧
          Turns (first.turn origins moment r) (second.turn other moment s) := by
        unfold World.turn
        rw [← service]
        exact pair first.service moment outage related
      have stepped : (first.step origins (.request moment r)).service =
          (second.step other (.request moment s)).service := both.1
      have later := ih stepped outage
      exact ⟨later.1, .cons ⟨related, both.2⟩ later.2⟩

/-! ## What a request is used for -/

/-- The method and the path of a request say which action it asks for. -/
theorem action?_congr {a b : Request} (method : a.method = b.method) (path : a.path = b.path) :
    action? a = action? b := by
  unfold action?
  rw [method, path]

-- Only what files something looks at the payload.
theorem call_congr {a b : Request} (same : payload a = payload b) (moment : Moment)
    (inquiry : Inquiry) : inquiry.call a moment = inquiry.call b moment := by
  cases inquiry <;> simp only [Inquiry.call, same]

/-- An action is done in the same way for all requests that hold the same. -/
theorem act_congr {a b : Request} (same : payload a = payload b) (service : Service)
    (outage : Outage) (moment : Moment) (action : Action) :
    service.act outage moment a action = service.act outage moment b action := by
  cases action <;> simp only [act, onRule, carryOut, call_congr same]

end Service

end Rulebook

import Rulebook.Proofs.Service.Inquiry
import Rulebook.Proofs.Service.Outcome

/-!
# Runs of the Service

A run is a row of steps. At each step either a request comes in, at a moment
that the outside chooses freely, or the outside changes what fails from then on.
Clocks need not go forward and identifiers need not be fresh: whatever a moment
says is taken as it is.

Of a run an observer sees the requests and their answers and nothing else; that
is its transcript. The rules themselves are seen by nobody, which is why what is
said of them has to be carried along every run. `run_induction` does that for
any property of a world, and `store_run_induction` for properties of the rules
alone, which then have to be checked for single calls only.

## Main definitions

* `Step`: What may happen.
* `World`: A service and what fails for the time being.
* `World.turn`, `World.step`, `World.run`: What happens to it.
* `World.transcript`: What an observer sees of a run.

## Theorems

* `store_handle`: What a request does to the rules.
* `transcript_append`: The transcript of a run in two parts.
* `run_induction`: What every step keeps, every run keeps.
* `store_run_induction`: What every call keeps of the rules, every run keeps.
* `distinct_run`: Every run keeps identifiers distinct.
-/

namespace Rulebook

namespace Service

open Http (Request Response)

/-- What a request does to the rules. -/
theorem store_handle (service : Service) (origins : Origins) (outage : Outage)
    (moment : Moment) (request : Request) :
    (service.handle origins outage moment request).service.store =
      match inquiry? request with
      | none => service.store
      | some inquiry => service.storeAfter outage moment request inquiry := by
  cases h : inquiry? request with
  | none => rw [service_handle_of_inquiry?_none h]
  | some inquiry =>
    rw [handle_of_inquiry? h, carryOut_eq]
    rfl

/-- What may happen: a request comes in, or from now on something else fails. -/
inductive Step where
  | request (moment : Moment) (request : Request)
  | outage (outage : Outage)

/-- A service, and what fails for the time being. -/
structure World where
  service : Service := {}
  outage : Outage := Outage.none

namespace World

variable (origins : Origins)

/-- The turn that a request takes. -/
def turn (world : World) (moment : Moment) (request : Request) : Turn :=
  world.service.handle origins world.outage moment request

/-- The world behind a step. -/
def step (world : World) : Step → World
  | .request moment request => { world with service := (world.turn origins moment request).service }
  | .outage outage => { world with outage }

/-- The world behind a run. -/
def run (world : World) (steps : List Step) : World :=
  steps.foldl (step origins) world

/-- What an observer sees of a run: requests with their answers. -/
def transcript : World → List Step → List (Request × Response)
  | _, [] => []
  | world, .request moment request :: rest =>
    (request, (world.turn origins moment request).response) ::
      transcript (world.step origins (.request moment request)) rest
  | world, .outage outage :: rest => transcript (world.step origins (.outage outage)) rest

/-- What the second part of a run shows depends on the world that the first part
    leaves behind, and on nothing else of it. -/
theorem transcript_append (world : World) (first last : List Step) :
    world.transcript origins (first ++ last) =
      world.transcript origins first ++ (world.run origins first).transcript origins last := by
  induction first generalizing world with
  | nil => rfl
  | cons step rest ih =>
    cases step with
    | request moment request =>
      rw [List.cons_append, transcript, transcript, List.cons_append, ih]
      rfl
    | outage outage =>
      rw [List.cons_append, transcript, transcript, ih]
      rfl

/-- What every step keeps, every run keeps. -/
theorem run_induction {P : World → Prop} {world : World} (start : P world)
    (keep : ∀ (world : World) (step : Step), P world → P (world.step origins step))
    (steps : List Step) : P (world.run origins steps) := by
  induction steps generalizing world with
  | nil => exact start
  | cons step rest ih => exact ih (keep world step start)

/-- What every call keeps of the rules, every run keeps. Only such calls have to
    be looked at as an inquiry comes to. -/
theorem store_run_induction {P : Store → Prop} {world : World} (start : P world.service.store)
    (keep : ∀ (store : Store) (outage : Outage) (request : Request) (moment : Moment)
      (inquiry : Inquiry) (call : Call), inquiry.call request moment = .ok call → P store →
        P (store.runUnder outage call).2)
    (steps : List Step) : P (world.run origins steps).service.store := by
  -- Only a request that asks something and comes to a call touches the rules.
  refine run_induction origins (P := fun world => P world.service.store) start ?_ steps
  intro world step hworld
  cases step with
  | outage outage => exact hworld
  | request moment request =>
    simp only [World.step, turn]
    rw [store_handle]
    cases inquiry? request with
    | none => exact hworld
    | some inquiry =>
      simp only [storeAfter]
      cases hcall : inquiry.call request moment with
      | error problem => exact hworld
      | ok call => exact keep _ _ _ _ _ _ hcall hworld

/-- Every run keeps identifiers distinct. -/
theorem distinct_run {world : World} (distinct : world.service.store.Distinct)
    (steps : List Step) : (world.run origins steps).service.store.Distinct :=
  store_run_induction origins distinct
    (fun _ outage _ _ _ call _ h => Store.distinct_runUnder h outage call) steps

end World

end Service

end Rulebook

import Mathlib.Logic.Function.Basic
import Rulebook.Proofs.Service.Run

/-!
# Requests That Are under Way Together

A service does not finish one request before it begins the next. A request about
rules is worked on in turns: its payload is looked at, together with the clock and
a new identifier; its call is made; its outcome is counted; its caller is told.
Between two turns anything may happen to other requests, so the time that a call
carries may well be older than one that the store has already seen.

Such a mixture is a schedule: a row of numbers, each of which gives the job with
that number its next turn. Any row is a schedule. Of the turns of one job the first
fixes the call, and with it everything that the request brings along; only the
second touches the rules, and only the third the counts.

## Main definitions

* `Job`: A request about rules, at its moment.
* `Stage`: How far a job has come.
* `Stage.next`, `Stage.work`: What the next turn makes of a job, and of the service.
* `Traffic`: A service and the stages of its jobs.
* `Traffic.step`, `Traffic.run`: One turn, and a schedule of them.
* `Traffic.calls`: The jobs whose calls are made, in the order of the calls.

## Theorems

* `waiting_run_iff`: A job waits until it is given a turn.
* `answered_of_count`: A job that was given four turns is answered.
* `store_step`: A turn does nothing to the rules, or what a call does.
* `distinct_run`: Every schedule keeps identifiers distinct.
* `updatedAt_le_step`: No turn moves the time of a change backwards.
-/

namespace Rulebook

namespace Service

open Http (Request Response)

/-- A request about rules, what it asks, and what is current when it comes in. -/
structure Job where
  request : Request
  moment : Moment
  inquiry : Inquiry
  asks : Asks request inquiry

namespace Job

/-- The call that a job comes to, unless its payload is refused. -/
def call (job : Job) : Except Problem Call :=
  job.inquiry.call job.request job.moment

/-- Whether a job comes to a call. -/
def isTaken (job : Job) : Bool :=
  job.call.isOk

/-- A job as the one step of a run in which it is not interrupted. -/
def step (job : Job) : Step :=
  .request job.moment job.request

theorem inquiry?_request (job : Job) : inquiry? job.request = some job.inquiry :=
  inquiry?_eq_some_iff.2 job.asks

end Job

/-- How far a job has come. -/
inductive Stage where
  | waiting
  /-- The payload was taken, and the call is fixed. -/
  | ready (call : Call)
  /-- The call was answered, or the payload was refused. -/
  | settled (outcome : Except Problem Success)
  | counted (outcome : Except Problem Success)
  | answered (response : Response)

namespace Stage

/-- Where a turn leaves the job that takes it. -/
def next (origins : Origins) (job : Job) (store : Store) : Stage → Stage
  | waiting =>
    match job.call with
    | .ok call => ready call
    | .error problem => settled (.error problem)
  | ready call => settled (conclude call (store.run call).1)
  | settled outcome => counted outcome
  | counted outcome => answered (sent origins job.request (outcomeResponse outcome))
  | answered response => answered response

/-- What a turn of a job does to the service. -/
def work (job : Job) (service : Service) : Stage → Service
  | ready call => { service with store := (service.store.run call).2 }
  | settled outcome => { service with tally := service.tally.track job.inquiry.operation outcome }
  | waiting | counted _ | answered _ => service

/-- How many turns a job has behind it at least. -/
def rank : Stage → Nat
  | waiting => 0
  | ready _ => 1
  | settled _ => 2
  | counted _ => 3
  | answered _ => 4

/-- Whether the next turn of a job is its call. -/
def isReady : Stage → Bool
  | ready _ => true
  | _ => false

theorem rank_next (origins : Origins) (job : Job) (store : Store) (stage : Stage) :
    min 4 (stage.rank + 1) ≤ (stage.next origins job store).rank := by
  cases stage with
  | waiting =>
    simp only [next]
    cases job.call <;> simp only [rank] <;> decide
  | ready _ | settled _ | counted _ | answered _ =>
    simp only [next, rank]
    decide

theorem answered_of_rank {stage : Stage} (h : 4 ≤ stage.rank) :
    ∃ response, stage = answered response := by
  cases stage with
  | answered response => exact ⟨response, rfl⟩
  | waiting | ready _ | settled _ | counted _ => exact absurd h (by simp only [rank]; decide)

end Stage

/-- A service and the stages of its jobs. -/
structure Traffic where
  service : Service
  stage : Nat → Stage := fun _ => .waiting

namespace Traffic

variable (origins : Origins) (jobs : Nat → Job)

/-- A job takes its next turn. -/
def step (traffic : Traffic) (i : Nat) : Traffic where
  service := (traffic.stage i).work (jobs i) traffic.service
  stage := Function.update traffic.stage i
    ((traffic.stage i).next origins (jobs i) traffic.service.store)

/-- Jobs take their turns along a schedule. -/
def run (traffic : Traffic) (schedule : List Nat) : Traffic :=
  schedule.foldl (step origins jobs) traffic

/-- The jobs whose calls are made along a schedule, in the order of the calls. -/
def calls : Traffic → List Nat → List Nat
  | _, [] => []
  | traffic, i :: rest =>
    if (traffic.stage i).isReady then i :: calls (traffic.step origins jobs i) rest
    else calls (traffic.step origins jobs i) rest

variable {origins jobs}

theorem stage_step_self (traffic : Traffic) (i : Nat) :
    (traffic.step origins jobs i).stage i =
      (traffic.stage i).next origins (jobs i) traffic.service.store :=
  Function.update_self ..

theorem stage_step_of_ne (traffic : Traffic) {i j : Nat} (h : j ≠ i) :
    (traffic.step origins jobs i).stage j = traffic.stage j :=
  Function.update_of_ne h ..

/-! ## Turns -/

-- Each turn takes a job further, and the turns of others leave it where it is.
theorem rank_run (traffic : Traffic) (schedule : List Nat) (i : Nat) :
    min 4 ((traffic.stage i).rank + schedule.count i) ≤
      ((traffic.run origins jobs schedule).stage i).rank := by
  induction schedule generalizing traffic with
  | nil => exact Nat.min_le_right ..
  | cons j rest ih =>
    refine Nat.le_trans ?_ (ih (traffic.step origins jobs j))
    by_cases h : i = j
    · subst h
      have further := Stage.rank_next origins (jobs i) traffic.service.store (traffic.stage i)
      rw [stage_step_self, List.count_cons_self]
      omega
    · refine Nat.le_of_eq ?_
      rw [stage_step_of_ne traffic h, List.count_cons_of_ne (Ne.symm h)]

/-- A job that was given four turns is answered, whatever else was under way. -/
theorem answered_of_count (traffic : Traffic) {schedule : List Nat} {i : Nat}
    (h : 4 ≤ schedule.count i) :
    ∃ response, (traffic.run origins jobs schedule).stage i = .answered response := by
  have enough : 4 ≤ min 4 ((traffic.stage i).rank + schedule.count i) := by omega
  exact Stage.answered_of_rank (Nat.le_trans enough (rank_run ..))

-- What is given no turn stays where it is.
theorem stage_run_of_not_mem (traffic : Traffic) {schedule : List Nat} {i : Nat}
    (h : i ∉ schedule) : (traffic.run origins jobs schedule).stage i = traffic.stage i := by
  induction schedule generalizing traffic with
  | nil => rfl
  | cons j rest ih =>
    rw [List.mem_cons, not_or] at h
    exact (ih (traffic.step origins jobs j) h.2).trans (stage_step_of_ne traffic h.1)

/-- A job waits until it is given a turn. -/
theorem waiting_run_iff (service : Service) (schedule : List Nat) (i : Nat) :
    (run origins jobs { service } schedule).stage i = .waiting ↔ i ∉ schedule := by
  constructor
  · intro waiting hi
    have taken := List.count_pos_iff.2 hi
    have further : 0 < ((run origins jobs { service } schedule).stage i).rank :=
      Nat.lt_of_lt_of_le (by omega) (rank_run ..)
    rw [waiting] at further
    exact absurd further (Nat.lt_irrefl 0)
  · exact stage_run_of_not_mem { service }

/-! ## What no turn does to the rules -/

/-- A turn does nothing to the rules, or what a call does. -/
theorem store_step (origins : Origins) (jobs : Nat → Job) (traffic : Traffic) (i : Nat) :
    (traffic.step origins jobs i).service.store = traffic.service.store ∨
      ∃ call, (traffic.step origins jobs i).service.store = (traffic.service.store.run call).2 := by
  simp only [step]
  cases traffic.stage i with
  | ready call => exact .inr ⟨call, rfl⟩
  | waiting | settled _ | counted _ | answered _ => exact .inl rfl

/-- Every schedule keeps identifiers distinct. -/
theorem distinct_run {traffic : Traffic} (distinct : traffic.service.store.Distinct)
    (schedule : List Nat) : (traffic.run origins jobs schedule).service.store.Distinct := by
  induction schedule generalizing traffic with
  | nil => exact distinct
  | cons i rest ih =>
    refine ih ?_
    rcases store_step origins jobs traffic i with same | ⟨call, made⟩
    · rw [same]
      exact distinct
    · rw [made]
      exact Store.distinct_run distinct call

/-- No turn moves the time of a change backwards, whatever time its call carries. -/
theorem updatedAt_le_step {traffic : Traffic} (distinct : traffic.service.store.Distinct)
    (i : Nat) :
    ∀ old ∈ traffic.service.store.rules,
      ∀ new ∈ (traffic.step origins jobs i).service.store.rules,
        old.id = new.id → old.updatedAt ≤ new.updatedAt := by
  intro old hold new hnew same
  rcases store_step origins jobs traffic i with kept | ⟨call, made⟩
  · rw [kept] at hnew
    rw [Store.eq_of_id_eq distinct hold hnew same]
    exact Instant.le_refl _
  · rw [made] at hnew
    exact Store.updatedAt_le_run distinct call old hold new hnew same

end Traffic

end Service

end Rulebook

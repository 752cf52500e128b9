import Mathlib.Data.List.Induction
import Mathlib.Data.List.Perm.Basic
import Rulebook.Proofs.Service.Interleaving

/-!
# One after the Other

Jobs that are not interrupted are served in a row, each finished before the next one
begins, and such a row is just a run of the service. In it a job finds the rules that
the jobs before it have left. So its outcome is a matter of the calls that stand
before it, and of nothing else: neither what comes later nor a job whose payload is
refused makes a difference to it.

The counts behind a row are those of the outcomes in it. Outcomes may be counted in
any order, which is what makes a row of any use to jobs that are counted in another
order than they were called.

## Main definitions

* `Job.outcome`: The outcome of a job that finds the service as it is.
* `serve`, `serveAll`: What jobs do that are not interrupted.
* `outcomeIn`: The outcome of a job at its place in a row.
* `tallied`: The counts behind some outcomes.
* `stepsOf`: A row of jobs, as the steps of a run.

## Theorems

* `track_comm`, `tallied_perm`: Outcomes may be counted in any order.
* `handle_job`: A job that is not interrupted is served.
* `outcomeIn_append`, `outcomeIn_filter`: What an outcome does not depend on.
* `tally_serveAll`: The counts behind a row are those of its outcomes.
* `run_steps`, `transcript_steps`: A row of jobs is a run, and how it is seen.
-/

namespace Rulebook

/-- Outcomes may be counted in any order. -/
theorem Tally.track_comm {α : Type} (t : Tally) (o p : Operation) (a b : Except Problem α) :
    (t.track o a).track p b = (t.track p b).track o a := by
  rcases a with problem | a <;> rcases b with other | b
  · cases problem <;> cases other <;> rfl
  · cases problem <;> cases p <;> rfl
  · cases o <;> cases other <;> rfl
  · cases o <;> cases p <;> rfl

namespace Service

open Http (Request Response)

/-- The outcome of a job that finds the service as it is. -/
def Job.outcome (job : Job) (service : Service) : Except Problem Success :=
  service.outcome Outage.none job.moment job.request job.inquiry

/-- The service behind a job that is not interrupted. -/
def serve (service : Service) (job : Job) : Service where
  store := service.storeAfter Outage.none job.moment job.request job.inquiry
  tally := service.tally.track job.inquiry.operation (job.outcome service)

theorem Job.outcome_of_ok {job : Job} {call : Call} (h : job.call = .ok call)
    (service : Service) : job.outcome service = conclude call (service.store.run call).1 := by
  rw [Job.call] at h
  simp only [outcome, Service.outcome, h, Store.runUnder_none]

theorem Job.outcome_of_error {job : Job} {problem : Problem} (h : job.call = .error problem)
    (service : Service) : job.outcome service = .error problem := by
  rw [Job.call] at h
  simp only [outcome, Service.outcome, h]

theorem store_serve_of_ok {job : Job} {call : Call} (h : job.call = .ok call)
    (service : Service) : (service.serve job).store = (service.store.run call).2 := by
  rw [Job.call] at h
  simp only [serve, storeAfter, h, Store.runUnder_none]

theorem store_serve_of_error {job : Job} {problem : Problem} (h : job.call = .error problem)
    (service : Service) : (service.serve job).store = service.store := by
  rw [Job.call] at h
  simp only [serve, storeAfter, h]

-- Only the rules that it finds matter to a job.
theorem Job.outcome_congr (job : Job) {a b : Service} (h : a.store = b.store) :
    job.outcome a = job.outcome b := by
  cases hcall : job.call with
  | ok call => rw [outcome_of_ok hcall, outcome_of_ok hcall, h]
  | error problem => rw [outcome_of_error hcall, outcome_of_error hcall]

theorem store_serve_congr (job : Job) {a b : Service} (h : a.store = b.store) :
    (a.serve job).store = (b.serve job).store := by
  cases hcall : job.call with
  | ok call => rw [store_serve_of_ok hcall, store_serve_of_ok hcall, h]
  | error problem => rw [store_serve_of_error hcall, store_serve_of_error hcall, h]

theorem Job.isTaken_of_ok {job : Job} {call : Call} (h : job.call = .ok call) :
    job.isTaken = true := by
  rw [isTaken, h]
  rfl

theorem Job.exists_error {job : Job} (h : job.isTaken = false) :
    ∃ problem, job.call = .error problem := by
  cases hcall : job.call with
  | ok call => exact absurd (isTaken_of_ok hcall) (by rw [h]; exact Bool.false_ne_true)
  | error problem => exact ⟨problem, rfl⟩

/-- A job that is not interrupted is served, and told its outcome. -/
theorem handle_job (service : Service) (origins : Origins) (job : Job) :
    (service.handle origins Outage.none job.moment job.request).service = service.serve job ∧
      (service.handle origins Outage.none job.moment job.request).response =
        sent origins job.request (outcomeResponse (job.outcome service)) := by
  rw [handle_of_inquiry? job.inquiry?_request, carryOut_eq]
  exact ⟨rfl, rfl⟩

/-! ## Rows of jobs -/

section Rows

variable (jobs : Nat → Job)

/-- The service behind a row of jobs, each finished before the next one begins. -/
def serveAll (service : Service) (row : List Nat) : Service :=
  row.foldl (fun service i => service.serve (jobs i)) service

/-- The outcome of a job at its place in a row, or behind the row if it has none. -/
def outcomeIn (service : Service) (row : List Nat) (i : Nat) : Except Problem Success :=
  (jobs i).outcome (service.serveAll jobs (row.takeWhile (· ≠ i)))

/-- The counts behind jobs that come to some outcomes. -/
def tallied (tally : Tally) (outcomes : Nat → Except Problem Success) (row : List Nat) : Tally :=
  row.foldl (fun tally i => tally.track (jobs i).inquiry.operation (outcomes i)) tally

/-- The steps of a run in which jobs are served one after the other. -/
def stepsOf (row : List Nat) : List Step :=
  row.map fun i => (jobs i).step

variable {jobs}

theorem serveAll_append (service : Service) (first last : List Nat) :
    service.serveAll jobs (first ++ last) = (service.serveAll jobs first).serveAll jobs last :=
  List.foldl_append

-- The row before a place of a job is the one up to there, if it has none earlier.
theorem takeWhile_append_cons {first : List Nat} {i : Nat} (h : i ∉ first) (last : List Nat) :
    (first ++ i :: last).takeWhile (· ≠ i) = first := by
  have before : ∀ j ∈ first, decide (j ≠ i) = true := fun j hj =>
    decide_eq_true fun same => h (same ▸ hj)
  rw [List.takeWhile_append_of_pos before, List.takeWhile_cons_of_neg (by simp), List.append_nil]

theorem outcomeIn_append_cons (service : Service) {first : List Nat} {i : Nat} (h : i ∉ first)
    (last : List Nat) : service.outcomeIn jobs (first ++ i :: last) i =
      (jobs i).outcome (service.serveAll jobs first) := by
  rw [outcomeIn, takeWhile_append_cons h]

-- What comes behind the place of a job does not change its outcome.
theorem outcomeIn_append (service : Service) {row : List Nat} {i : Nat} (h : i ∈ row)
    (more : List Nat) : service.outcomeIn jobs (row ++ more) i = service.outcomeIn jobs row i := by
  rcases List.eq_append_cons_of_mem h with ⟨first, last, rfl, hfirst⟩
  rw [List.append_assoc, List.cons_append, outcomeIn_append_cons service hfirst,
    outcomeIn_append_cons service hfirst]

-- A job that is refused has no use for a place.
theorem outcomeIn_of_error (service : Service) {i : Nat} {problem : Problem}
    (h : (jobs i).call = .error problem) (row : List Nat) :
    service.outcomeIn jobs row i = .error problem :=
  Job.outcome_of_error h _

theorem tallied_congr (tally : Tally) {a b : Nat → Except Problem Success} {row : List Nat}
    (h : ∀ i ∈ row, a i = b i) : tallied jobs tally a row = tallied jobs tally b row := by
  refine List.foldl_ext _ _ tally fun tally i hi => ?_
  rw [h i hi]

theorem tallied_concat (tally : Tally) (outcomes : Nat → Except Problem Success) (row : List Nat)
    (i : Nat) : tallied jobs tally outcomes (row ++ [i]) =
      (tallied jobs tally outcomes row).track (jobs i).inquiry.operation (outcomes i) :=
  List.foldl_concat ..

/-- The counts depend on which jobs were counted, and not on the order. -/
theorem tallied_perm (tally : Tally) (outcomes : Nat → Except Problem Success) {a b : List Nat}
    (h : a.Perm b) : tallied jobs tally outcomes a = tallied jobs tally outcomes b :=
  h.foldl_eq' (fun _ _ _ _ _ => Tally.track_comm ..) tally

/-- The counts behind a row are those of the outcomes in it. -/
theorem tally_serveAll (service : Service) {row : List Nat} (nodup : row.Nodup) :
    (service.serveAll jobs row).tally =
      tallied jobs service.tally (service.outcomeIn jobs row) row := by
  induction row using List.reverseRecOn with
  | nil => rfl
  | append_singleton row i ih =>
    rw [List.nodup_append_comm, List.singleton_append, List.nodup_cons] at nodup
    have earlier : ∀ j ∈ row,
        service.outcomeIn jobs (row ++ [i]) j = service.outcomeIn jobs row j :=
      fun j hj => service.outcomeIn_append hj [i]
    rw [tallied_concat, tallied_congr service.tally earlier, ← ih nodup.2,
      outcomeIn_append_cons service nodup.1, serveAll_append]
    rfl

/-- Refused jobs leave the rules as they are. -/
theorem store_serveAll_filter (service : Service) (row : List Nat) :
    (service.serveAll jobs (row.filter fun i => (jobs i).isTaken)).store =
      (service.serveAll jobs row).store := by
  induction row using List.reverseRecOn with
  | nil => rfl
  | append_singleton row i ih =>
    rw [List.filter_append, serveAll_append, serveAll_append]
    cases taken : (jobs i).isTaken with
    | true =>
      rw [List.filter_singleton, taken]
      exact store_serve_congr (jobs i) ih
    | false =>
      rcases Job.exists_error taken with ⟨problem, hcall⟩
      rw [List.filter_singleton, taken]
      exact ih.trans (store_serve_of_error hcall _).symm

/-- Refused jobs may stand anywhere: without them every other job has the same
    outcome. -/
theorem outcomeIn_filter (service : Service) {row : List Nat} {i : Nat} (h : i ∈ row) :
    service.outcomeIn jobs (row.filter fun i => (jobs i).isTaken) i =
      service.outcomeIn jobs row i := by
  cases taken : (jobs i).isTaken with
  | false =>
    rcases Job.exists_error taken with ⟨problem, hcall⟩
    rw [outcomeIn_of_error service hcall, outcomeIn_of_error service hcall]
  | true =>
    rcases List.eq_append_cons_of_mem h with ⟨first, last, rfl, hfirst⟩
    have hfilter : i ∉ first.filter fun i => (jobs i).isTaken :=
      fun hmem => hfirst (List.mem_of_mem_filter hmem)
    rw [List.filter_append, List.filter_cons_of_pos (p := fun i => (jobs i).isTaken) taken,
      outcomeIn_append_cons service hfilter, outcomeIn_append_cons service hfirst]
    exact (jobs i).outcome_congr (store_serveAll_filter service first)

/-- A row of jobs is a run of the service. -/
theorem run_steps (origins : Origins) (service : Service) (row : List Nat) :
    World.run origins { service } (stepsOf jobs row) =
      { service := service.serveAll jobs row } := by
  induction row generalizing service with
  | nil => rfl
  | cons i rest ih =>
    refine Eq.trans ?_ (ih (service.serve (jobs i)))
    rw [← (handle_job service origins (jobs i)).1]
    rfl

theorem length_transcript_steps (origins : Origins) (world : World) (row : List Nat) :
    (world.transcript origins (stepsOf jobs row)).length = row.length := by
  induction row generalizing world with
  | nil => rfl
  | cons i rest ih => exact congrArg (· + 1) (ih _)

/-- Of a row of jobs an observer sees their outcomes at their places. -/
theorem transcript_steps (origins : Origins) (service : Service) {row : List Nat} {i : Nat}
    (h : i ∈ row) :
    ∃ k : Nat, row[k]? = some i ∧
      (World.transcript origins { service } (stepsOf jobs row))[k]? =
        some ((jobs i).request, sent origins (jobs i).request
          (outcomeResponse (service.outcomeIn jobs row i))) := by
  rcases List.eq_append_cons_of_mem h with ⟨first, last, rfl, hfirst⟩
  have told := (handle_job (service.serveAll jobs first) origins (jobs i)).2
  have length : (World.transcript origins { service } (stepsOf jobs first)).length = first.length :=
    length_transcript_steps ..
  refine ⟨first.length, by rw [List.getElem?_append_right (Nat.le_refl _), Nat.sub_self]; rfl, ?_⟩
  rw [stepsOf, List.map_append, ← stepsOf, ← stepsOf, World.transcript_append, run_steps,
    outcomeIn_append_cons service hfirst, ← told, ← length,
    List.getElem?_append_right (Nat.le_refl _), Nat.sub_self]
  rfl

end Rows

end Service

end Rulebook

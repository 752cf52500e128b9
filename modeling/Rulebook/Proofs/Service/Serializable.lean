import Mathlib.Data.List.Dedup
import Rulebook.Proofs.Service.Serial

/-!
# No Schedule Shows

Whatever a schedule mixes, nobody outside can tell it from a row in which the same
requests are served one after the other, at the same moments and in the order of
their calls. Refused requests make no call and may stand anywhere in the row.

`Follows` ties a service with jobs under way to the row of the calls so far, and it
says of every stage what is already decided there. Behind the call of a job its
outcome is the one at the end of that row, and nothing that comes later changes it.
Each turn keeps `Follows`, so it holds behind every schedule.

Counting is an order of its own, and lags behind the calls. So the counts are tied
to those jobs that were counted, and meet those of the row once nothing is under way.

## Main definitions

* `Decided`: An outcome is that of a job at its place in a row.
* `Fits`: What the stage of a job says of it.
* `Follows`: What a service with jobs under way has to do with a row.
* `Serializes`: The rows in which the jobs of a schedule may be served.

## Theorems

* `follows_step`, `follows_run`: A schedule follows the row of its calls.
* `exists_serializes`: Every schedule has such a row.
* `serializable`: No schedule can be told from one of its rows.
-/

namespace Rulebook

namespace Service

open Http (Request Response)

section

variable (origins : Origins) (jobs : Nat → Job) (service : Service)

/-- An outcome is that of a job at its place in a row, or that of a refusal. -/
structure Decided (called : List Nat) (i : Nat) (outcome : Except Problem Success) : Prop where
  place : (jobs i).isTaken = true → i ∈ called
  outcome : outcome = service.outcomeIn jobs called i

/-- What the stage of a job says of it, where some jobs have made their calls and
    some have been counted. -/
def Fits (called counted : List Nat) (i : Nat) : Stage → Prop
  | .waiting => i ∉ called ∧ i ∉ counted
  | .ready call => (jobs i).call = .ok call ∧ i ∉ called ∧ i ∉ counted
  | .settled outcome => Decided jobs service called i outcome ∧ i ∉ counted
  | .counted outcome => Decided jobs service called i outcome ∧ i ∈ counted
  | .answered response =>
    ∃ outcome, Decided jobs service called i outcome ∧ i ∈ counted ∧
      response = sent origins (jobs i).request (outcomeResponse outcome)

/-- What a service with jobs under way has to do with the row of the jobs that have
    made their calls, and with those that have been counted. -/
structure Follows (traffic : Traffic) (called counted : List Nat) : Prop where
  nodupCalled : called.Nodup
  nodupCounted : counted.Nodup
  taken : ∀ i ∈ called, (jobs i).isTaken = true
  store : traffic.service.store = (service.serveAll jobs called).store
  tally : traffic.service.tally =
    tallied jobs service.tally (service.outcomeIn jobs called) counted
  fits : ∀ i, Fits origins jobs service called counted i (traffic.stage i)

variable {origins jobs service}

/-! ## Decisions stand -/

theorem Decided.append {called : List Nat} {i : Nat} {outcome : Except Problem Success}
    (h : Decided jobs service called i outcome) (more : List Nat) :
    Decided jobs service (called ++ more) i outcome where
  place taken := List.mem_append_left more (h.place taken)
  outcome := by
    rw [h.outcome]
    cases taken : (jobs i).isTaken with
    | true => exact (service.outcomeIn_append (h.place taken) more).symm
    | false =>
      rcases Job.exists_error taken with ⟨problem, hcall⟩
      rw [outcomeIn_of_error service hcall, outcomeIn_of_error service hcall]

-- Another job that joins a row brings nobody else into it.
theorem notMem_concat {row : List Nat} {i j : Nat} (hij : i ≠ j) (hi : i ∉ row) :
    i ∉ row ++ [j] := fun hmem =>
  (List.mem_append.1 hmem).elim hi fun hj => hij (List.mem_singleton.1 hj)

-- The calls of others leave a job where it is.
theorem Fits.call {called counted : List Nat} {i j : Nat} {stage : Stage}
    (h : Fits origins jobs service called counted i stage) (hij : i ≠ j) :
    Fits origins jobs service (called ++ [j]) counted i stage := by
  cases stage with
  | waiting => exact ⟨notMem_concat hij h.1, h.2⟩
  | ready call => exact ⟨h.1, notMem_concat hij h.2.1, h.2.2⟩
  | settled outcome => exact ⟨h.1.append [j], h.2⟩
  | counted outcome => exact ⟨h.1.append [j], h.2⟩
  | answered response =>
    rcases h with ⟨outcome, decided, rest⟩
    exact ⟨outcome, decided.append [j], rest⟩

-- So does the counting of others.
theorem Fits.count {called counted : List Nat} {i j : Nat} {stage : Stage}
    (h : Fits origins jobs service called counted i stage) (hij : i ≠ j) :
    Fits origins jobs service called (counted ++ [j]) i stage := by
  cases stage with
  | waiting => exact ⟨h.1, notMem_concat hij h.2⟩
  | ready call => exact ⟨h.1, h.2.1, notMem_concat hij h.2.2⟩
  | settled outcome => exact ⟨h.1, notMem_concat hij h.2⟩
  | counted outcome => exact ⟨h.1, List.mem_append_left [j] h.2⟩
  | answered response =>
    rcases h with ⟨outcome, decided, hi, told⟩
    exact ⟨outcome, decided, List.mem_append_left [j] hi, told⟩

-- What was counted was decided before.
theorem Fits.decided {called counted : List Nat} {i : Nat} {stage : Stage}
    (h : Fits origins jobs service called counted i stage) (hi : i ∈ counted) :
    ∃ outcome, Decided jobs service called i outcome := by
  cases stage with
  | waiting => exact absurd hi h.2
  | ready call => exact absurd hi h.2.2
  | settled outcome => exact absurd hi h.2
  | counted outcome => exact ⟨outcome, h.1⟩
  | answered response => exact ⟨h.choose, h.choose_spec.1⟩

-- The counts stay those of the jobs that were counted, also when the row grows.
theorem tallied_append {called counted : List Nat} (more : List Nat)
    (h : ∀ i ∈ counted, ∃ outcome, Decided jobs service called i outcome) :
    tallied jobs service.tally (service.outcomeIn jobs (called ++ more)) counted =
      tallied jobs service.tally (service.outcomeIn jobs called) counted := by
  refine tallied_congr service.tally fun i hi => ?_
  rcases h i hi with ⟨outcome, decided⟩
  rw [← (decided.append more).outcome, decided.outcome]

/-! ## Turns and schedules -/

/-- Nothing is decided yet where no job has taken a turn. -/
theorem follows_start : Follows origins jobs service { service } [] [] where
  nodupCalled := List.nodup_nil
  nodupCounted := List.nodup_nil
  taken _ h := absurd h List.not_mem_nil
  store := rfl
  tally := rfl
  fits _ := ⟨List.not_mem_nil, List.not_mem_nil⟩

variable {traffic : Traffic} {called counted : List Nat}

-- Only the stage of the job that takes a turn has to be looked at anew.
theorem fits_step {i : Nat} (self : Fits origins jobs service called counted i
      ((traffic.stage i).next origins (jobs i) traffic.service.store))
    (others : ∀ j, j ≠ i → Fits origins jobs service called counted j (traffic.stage j)) (j : Nat) :
    Fits origins jobs service called counted j ((traffic.step origins jobs i).stage j) := by
  by_cases h : j = i
  · rw [h, Traffic.stage_step_self]
    exact self
  · rw [Traffic.stage_step_of_ne traffic h]
    exact others j h

-- A turn that leaves the service alone only moves the job that takes it.
theorem Follows.move (h : Follows origins jobs service traffic called counted) {i : Nat}
    (kept : (traffic.step origins jobs i).service = traffic.service)
    (self : Fits origins jobs service called counted i
      ((traffic.stage i).next origins (jobs i) traffic.service.store)) :
    Follows origins jobs service (traffic.step origins jobs i) called counted where
  nodupCalled := h.nodupCalled
  nodupCounted := h.nodupCounted
  taken := h.taken
  store := kept ▸ h.store
  tally := kept ▸ h.tally
  fits := fits_step self fun j _ => h.fits j

-- The first turn fixes the call, or the refusal.
theorem Follows.prepare (h : Follows origins jobs service traffic called counted) {i : Nat}
    (stage : traffic.stage i = .waiting) :
    Follows origins jobs service (traffic.step origins jobs i) called counted := by
  have fits := h.fits i
  rw [stage] at fits
  refine h.move (by rw [Traffic.step, stage]; rfl) ?_
  rw [stage, Stage.next]
  cases hcall : (jobs i).call with
  | ok call => exact ⟨hcall, fits⟩
  | error problem =>
    have refused : (jobs i).isTaken = false := by
      rw [Job.isTaken, hcall]
      rfl
    refine ⟨⟨fun taken => ?_, (outcomeIn_of_error service hcall called).symm⟩, fits.2⟩
    exact absurd taken (by rw [refused]; exact Bool.false_ne_true)

-- The second makes the call, and finds what the row of the earlier calls has left.
theorem Follows.call (h : Follows origins jobs service traffic called counted) {i : Nat}
    {call : Call} (stage : traffic.stage i = .ready call) :
    Follows origins jobs service (traffic.step origins jobs i) (called ++ [i]) counted := by
  have fits := h.fits i
  rw [stage] at fits
  rcases fits with ⟨hcall, notCalled, notCounted⟩
  have work : (traffic.step origins jobs i).service =
      { traffic.service with store := (traffic.service.store.run call).2 } := by
    rw [Traffic.step, stage]
    rfl
  refine ⟨?_, h.nodupCounted, ?_, ?_, ?_, ?_⟩
  · simpa only [List.concat_eq_append] using h.nodupCalled.concat notCalled
  · intro j hj
    rcases List.mem_append.1 hj with earlier | last
    · exact h.taken j earlier
    · rw [List.mem_singleton.1 last]
      exact Job.isTaken_of_ok hcall
  · rw [work, serveAll_append, h.store]
    exact (store_serve_of_ok hcall _).symm
  · rw [work, tallied_append [i] fun j hj => (h.fits j).decided hj]
    exact h.tally
  · refine fits_step ?_ fun j hj => (h.fits j).call hj
    rw [stage]
    refine ⟨⟨fun _ => List.mem_append_right called (List.mem_singleton_self i), ?_⟩, notCounted⟩
    rw [outcomeIn_append_cons service notCalled, Job.outcome_of_ok hcall, h.store]

-- The third counts an outcome that was decided before.
theorem Follows.count (h : Follows origins jobs service traffic called counted) {i : Nat}
    {outcome : Except Problem Success} (stage : traffic.stage i = .settled outcome) :
    Follows origins jobs service (traffic.step origins jobs i) called (counted ++ [i]) := by
  have fits := h.fits i
  rw [stage] at fits
  rcases fits with ⟨decided, notCounted⟩
  have work : (traffic.step origins jobs i).service =
      { traffic.service with
        tally := traffic.service.tally.track (jobs i).inquiry.operation outcome } := by
    rw [Traffic.step, stage]
    rfl
  refine ⟨h.nodupCalled, ?_, h.taken, ?_, ?_, ?_⟩
  · simpa only [List.concat_eq_append] using h.nodupCounted.concat notCounted
  · rw [work]
    exact h.store
  · rw [work, tallied_concat, ← h.tally, ← decided.outcome]
  · refine fits_step ?_ fun j hj => (h.fits j).count hj
    rw [stage]
    exact ⟨decided, List.mem_append_right counted (List.mem_singleton_self i)⟩

-- The fourth tells the caller.
theorem Follows.tell (h : Follows origins jobs service traffic called counted) {i : Nat}
    {outcome : Except Problem Success} (stage : traffic.stage i = .counted outcome) :
    Follows origins jobs service (traffic.step origins jobs i) called counted := by
  have fits := h.fits i
  rw [stage] at fits
  refine h.move (by rw [Traffic.step, stage]; rfl) ?_
  rw [stage]
  exact ⟨outcome, fits.1, fits.2, rfl⟩

/-- Each turn keeps a service in step with the row of its calls. -/
theorem follows_step (h : Follows origins jobs service traffic called counted) (i : Nat) :
    ∃ counted, Follows origins jobs service (traffic.step origins jobs i)
      (called ++ if (traffic.stage i).isReady then [i] else []) counted := by
  cases stage : traffic.stage i with
  | waiting => exact ⟨counted, (List.append_nil called).symm ▸ h.prepare stage⟩
  | ready call => exact ⟨counted, h.call stage⟩
  | settled outcome => exact ⟨counted ++ [i], (List.append_nil called).symm ▸ h.count stage⟩
  | counted outcome => exact ⟨counted, (List.append_nil called).symm ▸ h.tell stage⟩
  | answered response =>
    have fits := h.fits i
    rw [stage] at fits
    refine ⟨counted, (List.append_nil called).symm ▸ h.move (by rw [Traffic.step, stage]; rfl) ?_⟩
    rw [stage]
    exact fits

/-- A schedule keeps a service in step with the row of its calls. -/
theorem follows_run (h : Follows origins jobs service traffic called counted)
    (schedule : List Nat) :
    ∃ counted, Follows origins jobs service (traffic.run origins jobs schedule)
      (called ++ traffic.calls origins jobs schedule) counted := by
  induction schedule generalizing traffic called counted with
  | nil => exact ⟨counted, (List.append_nil called).symm ▸ h⟩
  | cons i rest ih =>
    rcases follows_step h i with ⟨next, hnext⟩
    rcases ih hnext with ⟨last, hlast⟩
    refine ⟨last, ?_⟩
    rw [Traffic.calls]
    cases ready : (traffic.stage i).isReady with
    | true =>
      rw [ready, List.append_assoc] at hlast
      exact hlast
    | false =>
      rw [ready, List.append_assoc] at hlast
      exact hlast

end

/-! ## The rows of a schedule -/

/-- A row in which the jobs of a schedule may be served one after the other: those
    that came to a call in the order of their calls, and anywhere those whose payload
    was refused. -/
structure Serializes (origins : Origins) (jobs : Nat → Job) (service : Service)
    (schedule row : List Nat) : Prop where
  nodup : row.Nodup
  taken : row.filter (fun i => (jobs i).isTaken) =
    Traffic.calls origins jobs { service } schedule
  refused : ∀ i, (jobs i).isTaken = false → (i ∈ row ↔ i ∈ schedule)

section

variable {origins : Origins} {jobs : Nat → Job} {service : Service} {schedule row : List Nat}

/-- What a schedule leaves follows the row of all its calls. -/
theorem follows_calls (origins : Origins) (jobs : Nat → Job) (service : Service)
    (schedule : List Nat) :
    ∃ counted, Follows origins jobs service (Traffic.run origins jobs { service } schedule)
      (Traffic.calls origins jobs { service } schedule) counted :=
  follows_run follows_start schedule

-- Whoever has made a call, or waits no longer, was given a turn.
theorem mem_schedule {called counted : List Nat}
    (h : Follows origins jobs service (Traffic.run origins jobs { service } schedule)
      called counted) {i : Nat} (hi : i ∈ called ∨ i ∈ counted) : i ∈ schedule := by
  by_contra absent
  have fits := h.fits i
  rw [(Traffic.waiting_run_iff service schedule i).2 absent] at fits
  exact hi.elim fits.1 fits.2

/-- Every schedule has a row: the calls in their order, and the refused jobs behind. -/
theorem exists_serializes (origins : Origins) (jobs : Nat → Job) (service : Service)
    (schedule : List Nat) : ∃ row, Serializes origins jobs service schedule row := by
  rcases follows_calls origins jobs service schedule with ⟨counted, follows⟩
  let refused := schedule.dedup.filter fun i => !(jobs i).isTaken
  refine ⟨Traffic.calls origins jobs { service } schedule ++ refused, ?_, ?_, ?_⟩
  · refine follows.nodupCalled.append ((List.nodup_dedup schedule).filter _) ?_
    intro i called hi
    have isRefused := (List.mem_filter.1 hi).2
    rw [follows.taken i called] at isRefused
    exact Bool.false_ne_true isRefused
  · have called := List.filter_eq_self.2 follows.taken
    have others : refused.filter (fun i => (jobs i).isTaken) = [] := by
      refine List.filter_eq_nil_iff.2 fun i hi => ?_
      simpa using (List.mem_filter.1 hi).2
    rw [List.filter_append, called, others, List.append_nil]
  · intro i isRefused
    rw [List.mem_append, List.mem_filter, List.mem_dedup, isRefused]
    constructor
    · rintro (called | hi)
      · exact mem_schedule follows (.inl called)
      · exact hi.1
    · exact fun hi => .inr ⟨hi, rfl⟩

namespace Serializes

theorem mem_calls_iff (h : Serializes origins jobs service schedule row) {i : Nat}
    (taken : (jobs i).isTaken = true) :
    i ∈ Traffic.calls origins jobs { service } schedule ↔ i ∈ row := by
  rw [← h.taken, List.mem_filter]
  exact and_iff_left taken

-- The jobs of the row are among those that were given a turn.
theorem mem_schedule (h : Serializes origins jobs service schedule row) {i : Nat}
    (hi : i ∈ row) : i ∈ schedule := by
  cases taken : (jobs i).isTaken with
  | true =>
    rcases follows_calls origins jobs service schedule with ⟨counted, follows⟩
    exact Service.mem_schedule follows (.inl ((h.mem_calls_iff taken).2 hi))
  | false => exact (h.refused i taken).1 hi

-- What is decided has a place in the row, and is decided there.
theorem decided (h : Serializes origins jobs service schedule row) {i : Nat}
    {outcome : Except Problem Success} (hi : i ∈ schedule)
    (decided : Decided jobs service (Traffic.calls origins jobs { service } schedule) i outcome) :
    i ∈ row ∧ outcome = service.outcomeIn jobs row i := by
  have place : i ∈ row := by
    cases taken : (jobs i).isTaken with
    | true => exact (h.mem_calls_iff taken).1 (decided.place taken)
    | false => exact (h.refused i taken).2 hi
  refine ⟨place, ?_⟩
  rw [decided.outcome, ← h.taken, outcomeIn_filter service place]

/-- The rules are those that the row leaves. -/
theorem store (h : Serializes origins jobs service schedule row) :
    (Traffic.run origins jobs { service } schedule).service.store =
      (service.serveAll jobs row).store := by
  rcases follows_calls origins jobs service schedule with ⟨counted, follows⟩
  rw [follows.store, ← h.taken, store_serveAll_filter]

/-- A job is told what it is told in the row. -/
theorem answered (h : Serializes origins jobs service schedule row) {i : Nat}
    {response : Response}
    (stage : (Traffic.run origins jobs { service } schedule).stage i = .answered response) :
    i ∈ row ∧ response =
      sent origins (jobs i).request (outcomeResponse (service.outcomeIn jobs row i)) := by
  rcases follows_calls origins jobs service schedule with ⟨counted, follows⟩
  have fits := follows.fits i
  rw [stage] at fits
  rcases fits with ⟨outcome, decided, hcounted, told⟩
  rcases h.decided (Service.mem_schedule follows (.inr hcounted)) decided with ⟨place, same⟩
  exact ⟨place, same ▸ told⟩

/-- Once nothing is under way the counts are those that the row leaves. -/
theorem tally (h : Serializes origins jobs service schedule row)
    (idle : ∀ i ∈ schedule, ∃ response,
      (Traffic.run origins jobs { service } schedule).stage i = .answered response) :
    (Traffic.run origins jobs { service } schedule).service.tally =
      (service.serveAll jobs row).tally := by
  rcases follows_calls origins jobs service schedule with ⟨counted, follows⟩
  have same : counted.Perm row := by
    refine (List.perm_ext_iff_of_nodup follows.nodupCounted h.nodup).2 fun i => ?_
    constructor
    · intro hi
      rcases (follows.fits i).decided hi with ⟨outcome, decided⟩
      exact (h.decided (Service.mem_schedule follows (.inr hi)) decided).1
    · intro hi
      rcases idle i (h.mem_schedule hi) with ⟨response, stage⟩
      have fits := follows.fits i
      rw [stage] at fits
      exact fits.choose_spec.2.1
  have outcomes : ∀ i ∈ row, service.outcomeIn jobs (row.filter fun i => (jobs i).isTaken) i =
      service.outcomeIn jobs row i := fun i hi => outcomeIn_filter service hi
  rw [follows.tally, tallied_perm service.tally _ same, ← h.taken,
    tallied_congr service.tally outcomes, ← tally_serveAll service h.nodup]

end Serializes

end

/-- However the turns of any number of requests about rules are mixed, some row of the
    same requests has the same effect, and every row that keeps the calls in their order
    has it. Served one after the other in that row, at the same moments, the requests
    leave the same rules behind, every request that was answered is told the same at its
    place, and once nothing is under way the counts are the same. On the way no
    identifier is there twice, and no turn moves the time of a change backwards. -/
theorem serializable (origins : Origins) (jobs : Nat → Job) {service : Service}
    (distinct : (service.store.rules.map (·.id)).Nodup) (schedule : List Nat) :
    let behind := Traffic.run origins jobs { service } schedule
    (∃ row, Serializes origins jobs service schedule row) ∧
      (∀ row, Serializes origins jobs service schedule row →
        let serial := World.run origins { service } (stepsOf jobs row)
        behind.service.store = serial.service.store ∧
          (∀ i response, behind.stage i = .answered response →
            ∃ k : Nat, row[k]? = some i ∧
              (World.transcript origins { service } (stepsOf jobs row))[k]? =
                some ((jobs i).request, response)) ∧
          ((∀ i ∈ schedule, ∃ response, behind.stage i = .answered response) →
            behind.service.tally = serial.service.tally)) ∧
      (behind.service.store.rules.map (·.id)).Nodup ∧
      ∀ i, ∀ old ∈ behind.service.store.rules,
        ∀ new ∈ (behind.step origins jobs i).service.store.rules,
          old.id = new.id → old.updatedAt ≤ new.updatedAt := by
  intro behind
  have startDistinct : service.store.Distinct := distinct
  have behindDistinct : behind.service.store.Distinct :=
    Traffic.distinct_run startDistinct schedule
  refine ⟨exists_serializes origins jobs service schedule, fun row h => ?_, behindDistinct,
    Traffic.updatedAt_le_step behindDistinct⟩
  intro serial
  have served : serial.service = service.serveAll jobs row :=
    congrArg World.service (run_steps origins service row)
  refine ⟨served ▸ h.store, fun i response stage => ?_, fun idle => served ▸ h.tally idle⟩
  rcases h.answered stage with ⟨place, told⟩
  rw [told]
  exact transcript_steps origins service place

-- Two replacements of one rule, of which the one that read the clock first is the
-- last to make its call.
theorem serializable_overtaken :
    let early : Instant := ⟨0, 0, by decide, by decide, by decide⟩
    let late : Instant := ⟨1, 0, by decide, by decide, by decide⟩
    let seed := Rule.create ⟨"a"⟩ ⟨"n", none, "c", "x", true⟩ early
    let put : Request :=
      { method := "PUT"
        path := Text.octets "/api/rules/a"
        headers := [("content-type", Text.octets "application/json")]
        body := Text.octets "[\"n\", null, \"c\", \"x\", true]" }
    let job (now : Instant) : Job :=
      ⟨put, ⟨now, ⟨"b"⟩, 0⟩, .update ⟨"a"⟩, by decide +kernel, rfl⟩
    let jobs : Nat → Job := fun i => if i = 0 then job early else job late
    let service : Service := { store := ⟨[seed]⟩ }
    let schedule := [0, 1, 1, 0, 1, 0, 0, 1]
    let behind := Traffic.run ⟨[]⟩ jobs { service } schedule
    let serial := World.run ⟨[]⟩ { service } (stepsOf jobs [1, 0])
    ([seed].map (·.id)).Nodup ∧ Serializes ⟨[]⟩ jobs service schedule [1, 0] ∧
      behind.service.store = serial.service.store ∧
      behind.service.tally = serial.service.tally ∧
      behind.service.store.rules.map (·.updatedAt) = [late] := by
  intro early late seed put job jobs service schedule behind serial
  have distinct : ([seed].map (·.id)).Nodup := List.nodup_singleton _
  have taken (now : Instant) : (job now).isTaken = true := by
    have draft : payload put = .ok ⟨"n", none, "c", "x", true⟩ := by decide +kernel
    simp only [Job.isTaken, Job.call, job, Inquiry.call, draft, Except.map, Except.isOk,
      Except.toBool]
  have row : Serializes ⟨[]⟩ jobs service schedule [1, 0] := by
    refine ⟨by decide, by decide +kernel, fun i refused => absurd refused ?_⟩
    have jobTaken : (jobs i).isTaken = true := by
      by_cases first : i = 0
      · simp only [jobs, if_pos first, taken]
      · simp only [jobs, if_neg first, taken]
    rw [jobTaken]
    exact Bool.noConfusion
  have turns : ∀ i ∈ schedule, 4 ≤ schedule.count i := by decide
  have idle : ∀ i ∈ schedule, ∃ response, behind.stage i = .answered response :=
    fun i hi => Traffic.answered_of_count _ (turns i hi)
  have same := (serializable ⟨[]⟩ jobs distinct schedule).2.1 [1, 0] row
  exact ⟨distinct, row, same.1, same.2.2 idle, by decide +kernel⟩

end Service

end Rulebook

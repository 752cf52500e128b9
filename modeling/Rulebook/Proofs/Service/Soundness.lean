import Rulebook.Proofs.Service.Run

/-!
# What Holds of Every Rule That Is Kept

The rules of a service that started empty are sound, whatever was asked of it:
their identifiers are distinct, their names show, none was changed before it was
created, and their times are whole microseconds.

None of this may be owed to the outside. Clocks go backwards between requests
and identifiers come twice, so each part rests on a check or a cut of the
service itself: names on the payload, identifiers on the store, times on the cut
that every reading of the clock goes through before it is compared or kept. The
cut has to come before the comparison. The later of a time that is cut and one
that was kept is whole because both are, and it is not before the creation
because the one that was kept was not.

## Main definitions

* `Rule.Sound`: What holds of a rule that is kept.
* `Store.Sound`: What holds of the rules together.

## Theorems

* `isBlank_of_payload`: The name in a payload that is taken shows.
* `sound_create`, `sound_apply`: Rules are sound when they are made and changed.
* `sound_run_create`, `sound_run_update`: So are all rules behind such calls.
* `sound_runUnder`: A call that comes from an inquiry keeps the rules sound.
* `sound_of_reachable`: The rules of a service that started empty are sound.
-/

namespace Rulebook

/-- What holds of a rule that is kept. -/
structure Rule.Sound (rule : Rule) : Prop where
  /-- The name holds a character that is no blank. -/
  shows : ∃ c ∈ rule.fields.name.toList, Text.isBlank c = false
  ordered : rule.createdAt ≤ rule.updatedAt
  createdWhole : rule.createdAt.isWhole = true
  updatedWhole : rule.updatedAt.isWhole = true

/-- What holds of the rules together. -/
structure Store.Sound (store : Store) : Prop where
  distinct : store.Distinct
  rules : ∀ rule ∈ store.rules, rule.Sound

theorem Instant.isWhole_later {a b : Instant} (ha : a.isWhole = true) (hb : b.isWhole = true) :
    (Instant.later a b).isWhole = true := by
  rcases Instant.later_eq_left_or_right a b with h | h
  · rw [h]
    exact ha
  · rw [h]
    exact hb

/-- A rule is sound when it is made, if its name shows. -/
theorem Rule.sound_create {fields : Fields} (h : ∃ c ∈ fields.name.toList, Text.isBlank c = false)
    (id : RuleId) (now : Instant) : (Rule.create id fields now).Sound where
  shows := h
  ordered := Instant.le_refl _
  createdWhole := Instant.isWhole_floorMicros now
  updatedWhole := Instant.isWhole_floorMicros now

/-- A sound rule stays sound when its fields are replaced, if the new name shows. -/
theorem Rule.sound_apply {rule : Rule} (sound : rule.Sound) {fields : Fields}
    (h : ∃ c ∈ fields.name.toList, Text.isBlank c = false) (now : Instant) :
    (rule.apply fields now).Sound where
  shows := h
  ordered := Rule.createdAt_le_updatedAt_apply sound.ordered fields now
  createdWhole := sound.createdWhole
  updatedWhole := Instant.isWhole_later (Instant.isWhole_floorMicros now) sound.updatedWhole

namespace Service

open Http (Request)

/-- The name in a payload that is taken shows. -/
theorem isBlank_of_payload {request : Request} {fields : Fields}
    (h : payload request = .ok fields) : ∃ c ∈ fields.name.toList, Text.isBlank c = false := by
  unfold payload at h
  split at h
  · exact absurd h (by simp only [reduceCtorEq, not_false_eq_true])
  · split at h
    · exact absurd h (by simp only [reduceCtorEq, not_false_eq_true])
    · rename_i draft _ taken haccept
      simp only [Except.ok.injEq] at h
      rw [h] at haccept
      exact (Draft.accept_eq_ok_iff.1 haccept).2

-- An inquiry with a payload comes to a call only with fields that were taken.
theorem exists_payload_of_map {request : Request} {make : Fields → Call} {call : Call}
    (h : (payload request).map make = .ok call) :
    ∃ fields, payload request = .ok fields ∧ make fields = call := by
  cases hpayload : payload request with
  | error problem =>
    rw [hpayload] at h
    cases h
  | ok fields =>
    rw [hpayload] at h
    exact ⟨fields, rfl, Except.ok.inj h⟩

/-- Putting in a new rule whose name shows keeps the rules sound. -/
theorem sound_run_create {store : Store} (sound : store.Sound) {fields : Fields}
    (h : ∃ c ∈ fields.name.toList, Text.isBlank c = false) (id : RuleId) (now : Instant) :
    ∀ rule ∈ (store.run (.create (Rule.create id fields now))).2.rules, rule.Sound := by
  simp only [Store.run]
  split
  · rename_i grown hgrown
    intro rule hrule
    rw [Store.rules_create hgrown, List.mem_append, List.mem_singleton] at hrule
    rcases hrule with hold | hnew
    · exact sound.rules rule hold
    · rw [hnew]
      exact Rule.sound_create h id now
  · -- The identifier was taken, and the rules are those that were there.
    exact sound.rules

/-- Replacing fields by ones whose name shows keeps the rules sound. -/
theorem sound_run_update {store : Store} (sound : store.Sound) {fields : Fields}
    (h : ∃ c ∈ fields.name.toList, Text.isBlank c = false) (id : RuleId) (now : Instant) :
    ∀ rule ∈ (store.run (.update id fields now)).2.rules, rule.Sound := by
  simp only [Store.run]
  intro rule hrule
  rw [Store.rules_update sound.distinct, List.mem_map] at hrule
  rcases hrule with ⟨old, hold, rfl⟩
  by_cases hid : old.id = id
  · rw [if_pos hid]
    exact Rule.sound_apply (sound.rules old hold) h now
  · rw [if_neg hid]
    exact sound.rules old hold

/-- A call that comes from an inquiry keeps the rules sound. -/
theorem sound_runUnder {store : Store} (sound : store.Sound) (outage : Outage)
    {request : Request} {moment : Moment} {inquiry : Inquiry} {call : Call}
    (hcall : inquiry.call request moment = .ok call) :
    (store.runUnder outage call).2.Sound := by
  -- Distinct identifiers are the affair of the store; the rest is that of the call.
  refine ⟨Store.distinct_runUnder sound.distinct outage call, ?_⟩
  unfold Store.runUnder
  cases outage.calls call.operation with
  | some failure => exact sound.rules
  | none =>
    cases inquiry with
    | list =>
      simp only [Inquiry.call, Except.ok.injEq] at hcall
      rw [← hcall]
      exact sound.rules
    | get id =>
      simp only [Inquiry.call, Except.ok.injEq] at hcall
      rw [← hcall]
      exact sound.rules
    | create =>
      rcases exists_payload_of_map hcall with ⟨fields, taken, rfl⟩
      exact sound_run_create sound (isBlank_of_payload taken) moment.newId moment.now
    | update id =>
      rcases exists_payload_of_map hcall with ⟨fields, taken, rfl⟩
      exact sound_run_update sound (isBlank_of_payload taken) id moment.now
    | delete id =>
      simp only [Inquiry.call, Except.ok.injEq] at hcall
      rw [← hcall]
      intro rule hrule
      exact sound.rules rule (List.mem_of_mem_filter hrule)

-- The rules of a service that started empty are sound.
theorem sound_run (origins : Origins) (steps : List Step) :
    (World.run origins {} steps).service.store.Sound :=
  World.store_run_induction origins (P := Store.Sound)
    ⟨Store.distinct_empty, fun _ h => absurd h List.not_mem_nil⟩
    (fun _ outage _ _ _ _ hcall sound => sound_runUnder sound outage hcall) steps

/-- Whatever was asked of a service that started empty, at whatever readings of
    the clock and with whatever identifiers: no identifier is there twice, every
    name holds a character that is no blank, no rule was changed before it was
    created, and all times are whole microseconds. -/
theorem sound_of_reachable (origins : Origins) (steps : List Step) :
    ((World.run origins {} steps).service.store.rules.map (·.id)).Nodup ∧
      ∀ rule ∈ (World.run origins {} steps).service.store.rules,
        (∃ c ∈ rule.fields.name.toList, Text.isBlank c = false) ∧
          rule.createdAt ≤ rule.updatedAt ∧
          rule.createdAt.nanos % 1000 = 0 ∧ rule.updatedAt.nanos % 1000 = 0 := by
  have sound := sound_run origins steps
  refine ⟨sound.distinct, fun rule hrule => ?_⟩
  have hrule := sound.rules rule hrule
  exact ⟨hrule.shows, hrule.ordered, of_decide_eq_true hrule.createdWhole,
    of_decide_eq_true hrule.updatedWhole⟩

end Service

end Rulebook

import Rulebook.Proofs.Database.Execution

/-!
# Portable Calls

Not everything that can be kept in memory can be kept in a database. A text
there has no null character, and a time lies in a calendar of its own and in no
leap second. A call that keeps to this is `Portable`: nothing that it binds is
refused, and the rules that it makes can be kept and come back as they were.

The time of a clock reading is cut to whole microseconds before it is kept. The
cut stays inside the calendar of the database, as that begins with a whole one.

## Main definitions

* `IsPlain`, `PlainFields`: Texts without the null character.
* `Timely`: Clock readings that the database can keep.
* `Portable`: Calls that both kinds of stores can take.

## Theorems

* `sendable_parametersOf`: What a portable call is bound to can be sent.
* `storable_of_portable`: A rule that is put in by one can be kept.
* `storable_apply`: So can a rule that is changed by one.
* `sound_append`, `sound_change`, `sound_filter`: Rules that can be kept together
  stay so.
* `evaluate_create_free`, `evaluate_create_taken`, `evaluate_update_portable`:
  What the statements of portable calls do to them.
* `eq_duplicate_of_evaluate`: Nothing but a taken key stands in their way.
-/

namespace Rulebook
namespace Database

open Sql (Schema Violation evaluate isSendable firstMicros endMicros ruleColumns rulesSchema)

/-- A text without the null character. -/
def IsPlain (s : String) : Prop :=
  Char.ofNat 0 ∉ s.toList

instance (s : String) : Decidable (IsPlain s) :=
  inferInstanceAs (Decidable (Char.ofNat 0 ∉ s.toList))

/-- Fields without the null character. -/
structure PlainFields (fields : Fields) : Prop where
  name : IsPlain fields.name
  description : ∀ s, fields.description = some s → IsPlain s
  condition : IsPlain fields.condition
  action : IsPlain fields.action

/-- A clock reading outside leap seconds that lies in the calendar of the
    database. -/
structure Timely (now : Instant) : Prop where
  noLeap : now.nanos < 1000000000
  notBefore : firstMicros * 1000 ≤ (now.seconds - epochSeconds) * 1000000000 + now.nanos
  before : (now.seconds - epochSeconds) * 1000000000 + now.nanos < endMicros * 1000

/-- A call that both kinds of stores can take. Only new rules are put in. -/
def Portable : Call → Prop
  | .list => True
  | .create rule => ∃ id fields now,
    rule = Rule.create id fields now ∧ IsPlain id.text ∧ PlainFields fields ∧ Timely now
  | .get id => IsPlain id.text
  | .update id fields now => IsPlain id.text ∧ PlainFields fields ∧ Timely now
  | .delete id => IsPlain id.text

/-! ## Values -/

theorem isSendable_text {s : String} (plain : IsPlain s) : isSendable (.text s) = true := by
  simp only [isSendable, Bool.not_eq_true', List.contains_eq_mem, decide_eq_false_iff_not]
  exact plain

theorem isSendable_optionalText {s? : Option String} (plain : ∀ s, s? = some s → IsPlain s) :
    isSendable (optionalText s?) = true := by
  cases s? with
  | none => rfl
  | some s => exact isSendable_text (plain s rfl)

theorem countable_floorMicros {now : Instant} (timely : Timely now) :
    Countable now.floorMicros where
  whole := now.isWhole_floorMicros
  noLeap := by
    have cut : now.floorMicros.nanos = now.nanos - now.nanos % 1000 := rfl
    have noLeap := timely.noLeap
    omega

-- The cut stays inside the calendar of the database.
theorem isSendable_floorMicros {now : Instant} (timely : Timely now) :
    isSendable (.time (microsOf now.floorMicros)) = true := by
  have seconds : now.floorMicros.seconds = now.seconds := rfl
  have cut : now.floorMicros.nanos = now.nanos - now.nanos % 1000 := rfl
  have notBefore := timely.notBefore
  have before := timely.before
  have count := microsOf_eq (countable_floorMicros timely)
  rw [seconds, cut] at count
  rw [isSendable, Bool.and_eq_true, decide_eq_true_eq, decide_eq_true_eq]
  unfold firstMicros endMicros at *
  omega

/-! ## Calls -/

/-- What a portable call is bound to can be sent. -/
theorem sendable_parametersOf {call : Call} (portable : Portable call) :
    (parametersOf call).all isSendable = true := by
  cases call with
  | list => rfl
  | create rule =>
    rcases portable with ⟨id, fields, now, rfl, hid, hfields, timely⟩
    have time := isSendable_floorMicros timely
    simp only [parametersOf, ruleParameters, Rule.create, List.all_cons, List.all_nil,
      isSendable_text hid, isSendable_text hfields.name, isSendable_text hfields.condition,
      isSendable_text hfields.action, isSendable_optionalText hfields.description, time]
    rfl
  | get id =>
    simp only [parametersOf, List.all_cons, List.all_nil, isSendable_text portable, Bool.and_true]
  | update id fields now =>
    rcases portable with ⟨hid, hfields, timely⟩
    have time := isSendable_floorMicros timely
    simp only [parametersOf, List.all_cons, List.all_nil, isSendable_text hid,
      isSendable_text hfields.name, isSendable_text hfields.condition,
      isSendable_text hfields.action, isSendable_optionalText hfields.description, time]
    rfl
  | delete id =>
    simp only [parametersOf, List.all_cons, List.all_nil, isSendable_text portable, Bool.and_true]

/-- A rule that is put in by a portable call can be kept. -/
theorem storable_of_portable {rule : Rule} (portable : Portable (.create rule)) :
    Storable rule := by
  have sendable := sendable_parametersOf portable
  rcases portable with ⟨id, fields, now, rfl, _, _, timely⟩
  exact {
    sendable
    created := countable_floorMicros timely
    updated := countable_floorMicros timely
    ordered := Instant.le_refl _ }

/-- So can a rule that is changed by one. -/
theorem storable_apply {rule : Rule} (storable : Storable rule) {id : RuleId} {fields : Fields}
    {now : Instant} (portable : Portable (.update id fields now)) :
    Storable (rule.apply fields now) := by
  have sendable := sendable_parametersOf portable
  rcases portable with ⟨_, _, timely⟩
  have kept := storable.sendable
  have either := Instant.later_eq_left_or_right now.floorMicros rule.updatedAt
  constructor
  · simp only [parametersOf, ruleParameters, List.all_cons, List.all_nil, Bool.and_true,
      Bool.and_eq_true, Rule.id_apply, Rule.fields_apply, Rule.createdAt_apply,
      Rule.updatedAt_apply] at sendable kept ⊢
    -- The time of the change is one of two that can be sent.
    have time : isSendable
        (.time (microsOf (Instant.later now.floorMicros rule.updatedAt))) = true := by
      rcases either with h | h
      · rw [h]
        exact isSendable_floorMicros timely
      · rw [h]
        exact kept.2.2.2.2.2.2.2
    exact ⟨kept.1, sendable.2.1, sendable.2.2.1, sendable.2.2.2.1, sendable.2.2.2.2.1, rfl,
      kept.2.2.2.2.2.2.1, time⟩
  · exact storable.created
  · rw [Rule.updatedAt_apply]
    rcases either with h | h
    · rw [h]
      exact countable_floorMicros timely
    · rw [h]
      exact storable.updated
  · exact Rule.createdAt_le_updatedAt_apply storable.ordered fields now

/-! ## Tables -/

theorem sound_append {rules : List Rule} {rule : Rule} (sound : Sound rules)
    (storable : Storable rule) (free : ∀ other ∈ rules, other.id ≠ rule.id) :
    Sound (rules ++ [rule]) where
  distinct := by
    rw [List.map_append, List.nodup_append]
    refine ⟨sound.distinct, List.nodup_singleton _, ?_⟩
    intro id hid other hother heq
    rcases List.mem_map.1 hid with ⟨old, hold, rfl⟩
    rw [List.map_singleton, List.mem_singleton] at hother
    exact free old hold (heq.trans hother)
  storable := by
    intro other hother
    rcases List.mem_append.1 hother with h | h
    · exact sound.storable other h
    · rw [List.mem_singleton.1 h]
      exact storable

theorem sound_change {rules : List Rule} (sound : Sound rules) {id : RuleId} {fields : Fields}
    {now : Instant} (portable : Portable (.update id fields now)) :
    Sound (rules.map fun rule => if rule.id = id then rule.apply fields now else rule) where
  distinct := by
    have kept : (rules.map fun rule => if rule.id = id then rule.apply fields now else rule).map
        (·.id) = rules.map (·.id) := by
      rw [List.map_map]
      apply List.map_congr_left
      intro rule _
      by_cases h : rule.id = id
      · rw [Function.comp_apply, if_pos h, Rule.id_apply]
      · rw [Function.comp_apply, if_neg h]
    rw [kept]
    exact sound.distinct
  storable := by
    intro other hother
    rcases List.mem_map.1 hother with ⟨rule, hrule, rfl⟩
    by_cases h : rule.id = id
    · rw [if_pos h]
      exact storable_apply (sound.storable rule hrule) portable
    · rw [if_neg h]
      exact sound.storable rule hrule

theorem sound_filter {rules : List Rule} (sound : Sound rules) (p : Rule → Bool) :
    Sound (rules.filter p) where
  distinct := (List.filter_sublist.map _).nodup sound.distinct
  storable rule hrule := sound.storable rule (List.mem_of_mem_filter hrule)

/-- A rule with a free identifier is put in. -/
theorem evaluate_create_free {rules : List Rule} {rule : Rule} (sound : Sound rules)
    (portable : Portable (.create rule)) (free : ∀ other ∈ rules, other.id ≠ rule.id) :
    evaluate rulesSchema (parametersOf (.create rule)) (rules.map tupleOf)
        (commandOf (.create rule)) =
      .ok { affected := 1, table := (rules ++ [rule]).map tupleOf } := by
  have storable := storable_of_portable portable
  rw [evaluate_create rules storable, Schema.settle,
    violation?_rules (sound_append sound storable free)]

/-- A rule whose identifier is taken is not put in, for nothing but its key. -/
theorem evaluate_create_taken {rules : List Rule} {rule other : Rule} (sound : Sound rules)
    (portable : Portable (.create rule)) (there : other ∈ rules) (taken : other.id = rule.id) :
    evaluate rulesSchema (parametersOf (.create rule)) (rules.map tupleOf)
        (commandOf (.create rule)) = .error .duplicate := by
  have storable := storable_of_portable portable
  have all : ∀ each ∈ rules ++ [rule], Storable each := by
    intro each heach
    rcases List.mem_append.1 heach with h | h
    · exact sound.storable each h
    · rw [List.mem_singleton.1 h]
      exact storable
  -- The key is there twice, once of the old rule and once of the new one.
  have repeated : ¬ ((rules ++ [rule]).map (·.id)).Nodup := by
    intro distinct
    rw [List.map_append, List.nodup_append] at distinct
    exact distinct.2.2 other.id (List.mem_map_of_mem there) rule.id List.mem_cons_self taken
  rw [evaluate_create rules storable, Schema.settle, violation?_duplicate all repeated]

theorem evaluate_update_portable {rules : List Rule} (sound : Sound rules) {id : RuleId}
    {fields : Fields} {now : Instant} (portable : Portable (.update id fields now)) :
    evaluate rulesSchema (parametersOf (.update id fields now)) (rules.map tupleOf)
        (commandOf (.update id fields now)) =
      .ok {
        found := ((rules.filter (·.id = id)).map (·.apply fields now)).map tupleOf
        columns := ruleColumns
        affected := ((rules.filter (·.id = id)).map tupleOf).length
        table := (rules.map fun rule =>
          if rule.id = id then rule.apply fields now else rule).map tupleOf } := by
  rw [evaluate_update sound.storable (countable_floorMicros portable.2.2)
      (sendable_parametersOf portable), Schema.settle,
    violation?_rules (sound_change sound portable)]

/-- The check never fails. What a portable call may run into is a taken key, and
    only that. -/
theorem eq_duplicate_of_evaluate {rules : List Rule} (sound : Sound rules) {call : Call}
    (portable : Portable call) {violation : Violation}
    (h : evaluate rulesSchema (parametersOf call) (rules.map tupleOf) (commandOf call) =
      .error violation) : violation = .duplicate := by
  cases call with
  | list =>
    rw [evaluate_list] at h
    cases h
  | create rule =>
    by_cases known : ∃ other ∈ rules, other.id = rule.id
    · rcases known with ⟨other, there, taken⟩
      rw [evaluate_create_taken sound portable there taken] at h
      cases h
      rfl
    · have free : ∀ other ∈ rules, other.id ≠ rule.id :=
        fun other there taken => known ⟨other, there, taken⟩
      rw [evaluate_create_free sound portable free] at h
      cases h
  | get id =>
    rw [evaluate_get rules (sendable_parametersOf portable)] at h
    cases h
  | update id fields now =>
    rw [evaluate_update_portable sound portable] at h
    cases h
  | delete id =>
    rw [evaluate_delete rules (sendable_parametersOf portable)] at h
    cases h

end Database
end Rulebook

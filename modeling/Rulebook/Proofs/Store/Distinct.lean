import Mathlib.Data.List.Nodup
import Rulebook.Store

/-!
# Stores without Repeated Identifiers

A store looks for a rule from the front and stops at the first hit, but it
removes every hit. That these searches mean one and the same rule is not a
matter of how they are written: it rests on no identifier being there twice.
`Distinct` is that condition. A store that starts with it keeps it through every
call, under any outage, so every store that can come about has it.

With it, a look-up is membership, and the three calls that change anything are
an append, a change of one entry in its place, and the removal of one entry.

## Main definitions

* `Call.subject?`: The identifier that a call is about.
* `Distinct`: No identifier is there twice.

## Theorems

* `find?_eq_some_iff`: A rule is found exactly if it is there.
* `find?_eq_none_iff`: Nothing is found exactly if no rule has the identifier.
* `filter_id`: The rules with an identifier are the one that is found.
* `create_eq_ok_iff`: A rule is put in exactly if its identifier is free.
* `find?_update`, `find?_delete`: What is found after a replacement or a removal.
* `find?_run_of_ne`: A call about one rule leaves every other rule as it is.
* `distinct_run`, `distinct_runUnder`: Every call keeps identifiers distinct.
* `updatedAt_le_run`: No call moves the time of a change backwards.
-/

namespace Rulebook

/-- The identifier that a call is about. A listing is about no rule in particular. -/
def Call.subject? : Call → Option RuleId
  | .list => none
  | .create rule => some rule.id
  | .get id | .update id _ _ | .delete id => some id

namespace Store

/-- No identifier is there twice. -/
def Distinct (store : Store) : Prop :=
  (store.rules.map (·.id)).Nodup

theorem distinct_empty : Distinct empty :=
  List.nodup_nil

-- Two rules that are there are one if they have one identifier.
theorem eq_of_id_eq {store : Store} (distinct : store.Distinct) {a b : Rule}
    (ha : a ∈ store.rules) (hb : b ∈ store.rules) (hid : a.id = b.id) : a = b :=
  List.inj_on_of_nodup_map distinct ha hb hid

theorem find?_eq_none_iff {store : Store} {id : RuleId} :
    store.find? id = none ↔ ∀ rule ∈ store.rules, rule.id ≠ id := by
  unfold find?
  rw [List.find?_eq_none]
  constructor
  · intro h rule hrule hid
    exact h rule hrule (decide_eq_true hid)
  · intro h rule hrule hid
    exact h rule hrule (of_decide_eq_true hid)

-- What is found is there and has the identifier.
theorem mem_of_find?_eq_some {store : Store} {id : RuleId} {rule : Rule}
    (h : store.find? id = some rule) : rule ∈ store.rules ∧ rule.id = id := by
  unfold find? at h
  have hid := List.find?_some h
  exact ⟨List.mem_of_find?_eq_some h, by simpa only [decide_eq_true_eq] using hid⟩

/-- A rule is found exactly if it is there. -/
theorem find?_eq_some_iff {store : Store} (distinct : store.Distinct) {id : RuleId}
    {rule : Rule} : store.find? id = some rule ↔ rule ∈ store.rules ∧ rule.id = id := by
  constructor
  · exact mem_of_find?_eq_some
  · rintro ⟨hmem, hid⟩
    cases hfind : store.find? id with
    | none => exact absurd hid (find?_eq_none_iff.1 hfind rule hmem)
    | some found =>
      rcases mem_of_find?_eq_some hfind with ⟨hfound, hfoundId⟩
      rw [eq_of_id_eq distinct hfound hmem (hfoundId.trans hid.symm)]

/-- The rules with an identifier are the one that is found, if there is one. -/
theorem filter_id {store : Store} (distinct : store.Distinct) (id : RuleId) :
    store.rules.filter (·.id = id) = (store.find? id).toList := by
  rcases store with ⟨rules⟩
  unfold Distinct at distinct
  simp only [find?] at distinct ⊢
  induction rules with
  | nil => rfl
  | cons r rest ih =>
    rw [List.map_cons, List.nodup_cons] at distinct
    by_cases h : r.id = id
    · rw [List.filter_cons_of_pos (by simpa only [decide_eq_true_eq] using h),
        List.find?_cons_of_pos (by simpa only [decide_eq_true_eq] using h), Option.toList_some,
        List.cons.injEq, List.filter_eq_nil_iff]
      refine ⟨rfl, fun other hother hid => distinct.1 ?_⟩
      exact List.mem_map.2 ⟨other, hother, (of_decide_eq_true hid).trans h.symm⟩
    · rw [List.filter_cons_of_neg (by simpa only [decide_eq_true_eq] using h),
        List.find?_cons_of_neg (by simpa only [decide_eq_true_eq] using h)]
      exact ih distinct.2

/-- A rule is put in exactly if its identifier is free. -/
theorem create_eq_ok_iff {store grown : Store} {rule : Rule} :
    store.create rule = .ok grown ↔
      store.find? rule.id = none ∧ grown = ⟨store.rules ++ [rule]⟩ := by
  unfold create
  cases hfind : store.find? rule.id with
  | none => simp only [Option.isSome_none, Bool.false_eq_true, if_false, Except.ok.injEq,
      true_and, eq_comm]
  | some found => simp only [Option.isSome_some, if_true, reduceCtorEq, false_and]

theorem create_eq_error_iff {store : Store} {rule : Rule} {failure : Failure} :
    store.create rule = .error failure ↔
      store.find? rule.id ≠ none ∧ failure = taken rule.id := by
  unfold create
  cases hfind : store.find? rule.id with
  | none => simp only [Option.isSome_none, Bool.false_eq_true, if_false, reduceCtorEq, ne_eq,
      not_true_eq_false, false_and]
  | some found => simp only [Option.isSome_some, if_true, Except.error.injEq, ne_eq, reduceCtorEq,
      not_false_eq_true, true_and, eq_comm]

theorem distinct_create {store grown : Store} {rule : Rule} (distinct : store.Distinct)
    (h : store.create rule = .ok grown) : grown.Distinct := by
  rcases create_eq_ok_iff.1 h with ⟨hfree, rfl⟩
  unfold Distinct
  rw [List.map_append, List.nodup_append]
  refine ⟨distinct, List.nodup_singleton _, ?_⟩
  intro id hid other hother heq
  rcases List.mem_map.1 hid with ⟨old, hold, rfl⟩
  rw [List.map_singleton, List.mem_singleton] at hother
  exact find?_eq_none_iff.1 hfree old hold (heq.trans hother)

theorem distinct_update {store : Store} (distinct : store.Distinct) (id : RuleId)
    (fields : Fields) (now : Instant) : (store.update id fields now).Distinct := by
  unfold Distinct
  rw [map_id_update]
  exact distinct

theorem distinct_delete {store : Store} (distinct : store.Distinct) (id : RuleId) :
    (store.delete id).Distinct :=
  (List.filter_sublist.map _).nodup distinct

/-- The rule with the identifier is found with its fields replaced, every other
    rule as it was. -/
theorem find?_update (store : Store) (id other : RuleId) (fields : Fields) (now : Instant) :
    (store.update id fields now).find? other =
      if id = other then (store.find? other).map (·.apply fields now)
      else store.find? other := by
  rcases store with ⟨rules⟩
  simp only [update, find?]
  induction rules with
  | nil =>
    simp only [List.modify_nil, List.find?_nil, Option.map_none, ite_self]
  | cons r rest ih =>
    rw [modify_first_cons]
    by_cases hr : r.id = id
    · rw [if_pos hr]
      by_cases ho : id = other
      · rw [if_pos ho, List.find?_cons_of_pos (by simp only [Rule.id_apply, hr, ho, decide_true]),
          List.find?_cons_of_pos (by simp only [hr, ho, decide_true]), Option.map_some]
      · rw [if_neg ho, List.find?_cons_of_neg (by simp only [Rule.id_apply, hr, ho, decide_false,
          Bool.false_eq_true, not_false_eq_true]), List.find?_cons_of_neg (by simp only [hr, ho,
          decide_false, Bool.false_eq_true, not_false_eq_true])]
    · rw [if_neg hr]
      by_cases ho : r.id = other
      · -- The rule in front is the one that is looked for, and it is kept.
        have hne : id ≠ other := fun h => hr (ho.trans h.symm)
        rw [if_neg hne, List.find?_cons_of_pos (by simp only [ho, decide_true]),
          List.find?_cons_of_pos (by simp only [ho, decide_true])]
      · rw [List.find?_cons_of_neg (by simpa only [decide_eq_true_eq] using ho), ih,
          List.find?_cons_of_neg (by simpa only [decide_eq_true_eq] using ho)]

/-- Nothing is found of the rule with the identifier after it was removed, and every
    other rule is found as before. -/
theorem find?_delete (store : Store) (id other : RuleId) :
    (store.delete id).find? other = if id = other then none else store.find? other := by
  simp only [find?, delete, List.find?_filter]
  by_cases h : id = other
  · rw [if_pos h, List.find?_eq_none]
    intro rule _ both
    simp only [decide_eq_true_eq] at both
    exact both.1 (both.2.trans h.symm)
  · rw [if_neg h]
    congr 1
    funext rule
    -- What is looked for has another identifier than what is removed.
    by_cases hid : rule.id = other
    · simp only [hid, ne_eq, Ne.symm h, not_false_eq_true, decide_true, and_self]
    · simp only [hid, decide_false, Bool.false_eq_true, and_false]

/-- A call about one rule leaves every other rule as it is. -/
theorem find?_run_of_ne {call : Call} {id other : RuleId} (about : call.subject? = some id)
    (differs : id ≠ other) (store : Store) :
    (store.run call).2.find? other = store.find? other := by
  cases call with
  | list | get => rfl
  | create rule =>
    obtain rfl : rule.id = id := Option.some.inj about
    simp only [run]
    cases hcreate : store.create rule with
    | error failure => rfl
    | ok grown =>
      simp only [find?, rules_create hcreate, List.find?_append, List.find?_singleton, differs,
        decide_false, Bool.false_eq_true, if_false, Option.or_none]
  | update asked fields now =>
    obtain rfl : asked = id := Option.some.inj about
    exact (find?_update ..).trans (if_neg differs)
  | delete asked =>
    obtain rfl : asked = id := Option.some.inj about
    exact (find?_delete ..).trans (if_neg differs)

/-- Every call keeps identifiers distinct, whether it succeeds or not. -/
theorem distinct_run {store : Store} (distinct : store.Distinct) (call : Call) :
    (store.run call).2.Distinct := by
  cases call with
  | list => exact distinct
  | get id => exact distinct
  | create rule =>
    simp only [run]
    cases hcreate : store.create rule with
    | ok grown => exact distinct_create distinct hcreate
    | error failure => exact distinct
  | update id fields now => exact distinct_update distinct id fields now
  | delete id => exact distinct_delete distinct id

theorem distinct_runUnder {store : Store} (distinct : store.Distinct) (outage : Outage)
    (call : Call) : (store.runUnder outage call).2.Distinct := by
  unfold runUnder
  cases outage.calls call.operation with
  | none => exact distinct_run distinct call
  | some failure => exact distinct

/-- A call moves no time of a change backwards, whatever time it carries. -/
theorem updatedAt_le_run {store : Store} (distinct : store.Distinct) (call : Call) :
    ∀ old ∈ store.rules, ∀ new ∈ (store.run call).2.rules,
      old.id = new.id → old.updatedAt ≤ new.updatedAt := by
  intro old hold new hnew same
  -- A rule that was there already is the old one.
  have kept (there : new ∈ store.rules) : old.updatedAt ≤ new.updatedAt := by
    rw [eq_of_id_eq distinct hold there same]
    exact Instant.le_refl _
  cases call with
  | list | get id => exact kept hnew
  | create rule =>
    simp only [run] at hnew
    cases hcreate : store.create rule with
    | error failure =>
      rw [hcreate] at hnew
      exact kept hnew
    | ok grown =>
      rw [hcreate] at hnew
      simp only [rules_create hcreate, List.mem_append, List.mem_singleton] at hnew
      rcases hnew with there | rfl
      · exact kept there
      · -- A rule is put in only where none has its identifier.
        have free := find?_eq_none_iff.1 (create_eq_ok_iff.1 hcreate).1
        exact absurd same (free old hold)
  | update id fields now =>
    simp only [run, rules_update distinct, List.mem_map] at hnew
    rcases hnew with ⟨there, hthere, rfl⟩
    by_cases hid : there.id = id
    · rw [if_pos hid] at same ⊢
      rw [eq_of_id_eq distinct hold hthere same]
      exact Rule.updatedAt_le_apply there fields now
    · rw [if_neg hid] at kept ⊢
      exact kept hthere
  | delete id => exact kept (List.mem_of_mem_filter hnew)

end Store

end Rulebook

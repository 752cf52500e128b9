import Rulebook.Failure
import Rulebook.Rule

/-!
# Stores

The rules that are kept, in the order in which they were put in. A rule is put
at the end, and only under an identifier that is not taken; replacing the fields
of a rule leaves it where it is.

The service does not work on the list but asks the store by calls, each of which
is answered at once and as a whole. A call may also fail, for reasons that lie
outside the rules: an outage says what fails, and how.

## Main definitions

* `Store`: The rules that are kept.
* `Store.find?`, `Store.create`, `Store.update`, `Store.delete`: Single
  operations.
* `Call`, `Call.Reply`: What the service may ask, and what it is answered.
* `Store.run`: Answers a call.
* `Outage`, `Store.runUnder`: Answers a call during an outage.

## Theorems

* `rules_create`, `rules_update`, `rules_delete`: What each operation does to
  the list.
* `map_id_update`: A replacement keeps the identifiers and their order.
* `runUnder_none`: Without an outage every call is answered by the rules.
-/

namespace Rulebook

/-- The rules that are kept, the oldest entry first. -/
structure Store where
  rules : List Rule := []
  deriving DecidableEq

namespace Store

/-- A store without rules. -/
def empty : Store := {}

/-- The number of rules. -/
def size (store : Store) : Nat :=
  store.rules.length

/-- Whether there are no rules. -/
def isEmpty (store : Store) : Bool :=
  store.rules.isEmpty

/-- The rule with an identifier, if there is one. -/
def find? (store : Store) (id : RuleId) : Option Rule :=
  store.rules.find? (·.id = id)

/-- The failure to keep a second rule under one identifier. -/
def taken (id : RuleId) : Failure :=
  { text := "duplicate rule id " ++ id.text }

/-- Puts a rule at the end, if its identifier is not taken. -/
def create (store : Store) (rule : Rule) : Except Failure Store :=
  if (store.find? rule.id).isSome then .error (taken rule.id)
  else .ok ⟨store.rules ++ [rule]⟩

/-- Replaces the fields of the first rule with an identifier, where it stands. -/
def update (store : Store) (id : RuleId) (fields : Fields) (now : Instant) : Store :=
  ⟨store.rules.modify (store.rules.findIdx (·.id = id)) (·.apply fields now)⟩

/-- Removes the rule with an identifier. -/
def delete (store : Store) (id : RuleId) : Store :=
  ⟨store.rules.filter (·.id ≠ id)⟩

end Store

/-- What may be asked about rules. -/
inductive Operation where
  | list
  | create
  | get
  | update
  | delete
  deriving DecidableEq, Repr

/-- A call to a store. -/
inductive Call where
  | list
  | create (rule : Rule)
  | get (id : RuleId)
  | update (id : RuleId) (fields : Fields) (now : Instant)
  | delete (id : RuleId)
  deriving DecidableEq

namespace Call

/-- What a call asks for. -/
def operation : Call → Operation
  | .list => .list
  | .create _ => .create
  | .get _ => .get
  | .update .. => .update
  | .delete _ => .delete

/-- What a call is answered with, unless it fails. -/
abbrev Reply : Call → Type
  | .list => List Rule
  | .create _ => Unit
  | .get _ => Option Rule
  | .update .. => Option Rule
  | .delete _ => Bool

end Call

/-- What fails for the time being, and how. -/
structure Outage where
  /-- The calls that fail. -/
  calls : Operation → Option Failure := fun _ => none
  /-- Whether the store is out of reach. -/
  reach : Option Failure := none

namespace Outage

/-- Nothing fails. -/
def none : Outage := {}

end Outage

namespace Store

/-- The name under which the service reports where its rules are kept. -/
def backend : String := "memory"

/-- Answers a call. A call that fails leaves the store as it is. -/
def run (store : Store) : (call : Call) → Except Failure call.Reply × Store
  | .create rule =>
    match store.create rule with
    | .ok grown => (.ok (), grown)
    | .error failure => (.error failure, store)
  | .get id => (.ok (store.find? id), store)
  | .list => (.ok store.rules, store)
  | .update id fields now =>
    let changed := store.update id fields now
    (.ok (changed.find? id), changed)
  | .delete id => (.ok (store.find? id).isSome, store.delete id)

/-- Answers a call during an outage. -/
def runUnder (store : Store) (outage : Outage) (call : Call) :
    Except Failure call.Reply × Store :=
  match outage.calls call.operation with
  | some failure => (.error failure, store)
  | none => store.run call

/-- A rule with a free identifier comes last. -/
theorem rules_create {store grown : Store} {rule : Rule} (h : store.create rule = .ok grown) :
    grown.rules = store.rules ++ [rule] := by
  unfold create at h
  split at h
  · simp at h
  · simp only [Except.ok.injEq] at h
    simp [← h]

-- A change at the first rule with an identifier, told rule by rule.
theorem modify_first_cons (id : RuleId) (change : Rule → Rule) (r : Rule) (rest : List Rule) :
    (r :: rest).modify ((r :: rest).findIdx (·.id = id)) change =
      if r.id = id then change r :: rest
      else r :: rest.modify (rest.findIdx (·.id = id)) change := by
  by_cases h : r.id = id
  · rw [if_pos h]
    simp only [List.findIdx_cons, h, decide_true, cond_true, List.modify_zero_cons]
  · rw [if_neg h]
    simp only [List.findIdx_cons, h, decide_false, cond_false, List.modify_succ_cons]

/-- Where no identifier is there twice, a replacement changes every rule with the
    identifier, no other rule, and no place. -/
theorem rules_update {store : Store} (distinct : (store.rules.map (·.id)).Nodup) (id : RuleId)
    (fields : Fields) (now : Instant) :
    (store.update id fields now).rules =
      store.rules.map fun r => if r.id = id then r.apply fields now else r := by
  rcases store with ⟨rules⟩
  simp only [update] at distinct ⊢
  induction rules with
  | nil => rfl
  | cons r rest ih =>
    rw [modify_first_cons, List.map_cons]
    rw [List.map_cons, List.nodup_cons] at distinct
    by_cases h : r.id = id
    · -- Behind the first rule with the identifier there is no second one.
      rw [if_pos h, if_pos h]
      have others : ∀ s ∈ rest, (if s.id = id then s.apply fields now else s) = s := by
        intro s hs
        rw [if_neg]
        intro hsid
        exact distinct.1 (List.mem_map.2 ⟨s, hs, hsid.trans h.symm⟩)
      rw [List.map_congr_left others, List.map_id']
    · rw [if_neg h, if_neg h, ih distinct.2]

/-- A removal takes no rule but those with the identifier. -/
theorem rules_delete (store : Store) (id : RuleId) :
    (store.delete id).rules = store.rules.filter (·.id ≠ id) :=
  rfl

/-- Without an outage every call is answered by the rules. -/
@[simp] theorem runUnder_none (store : Store) (call : Call) :
    store.runUnder Outage.none call = store.run call :=
  rfl

-- What a replacement keeps of every rule, it keeps of all rules in their order.
theorem map_update {α : Type} (store : Store) (id : RuleId) (fields : Fields) (now : Instant)
    {part : Rule → α} (kept : ∀ rule : Rule, part (rule.apply fields now) = part rule) :
    (store.update id fields now).rules.map part = store.rules.map part := by
  rcases store with ⟨rules⟩
  simp only [update]
  induction rules with
  | nil => rfl
  | cons r rest ih =>
    rw [modify_first_cons]
    by_cases h : r.id = id
    · rw [if_pos h, List.map_cons, List.map_cons, kept]
    · rw [if_neg h, List.map_cons, List.map_cons, ih]

/-- A replacement keeps the identifiers and their order. -/
@[simp] theorem map_id_update (store : Store) (id : RuleId) (fields : Fields) (now : Instant) :
    (store.update id fields now).rules.map (·.id) = store.rules.map (·.id) :=
  store.map_update id fields now fun _ => rfl

end Store
end Rulebook

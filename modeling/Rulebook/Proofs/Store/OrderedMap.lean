import Mathlib.Logic.Function.Basic
import Rulebook.Proofs.Store.Distinct

/-!
# A Store Is a Map with an Order

Whoever uses a store need not know that it is a list. What it answers is what a finite
map from identifiers to rules would answer, one that remembers in which order its keys
were put in: a key that is new goes to the end, a key that is there stays in its place
whatever is put under it, and a key that is erased leaves the others as they stood.

The list has to be searched for everything that the map just knows, and each operation
searches in its own way: for any hit, for the first hit, for every miss. The two agree
because no identifier is ever there twice, and that is not an assumption here: the keys
of a map are distinct by construction, so whatever represents a map has it.

## Main definitions

* `OrderedMap`: A finite map that remembers the order of its keys.
* `OrderedMap.put`, `OrderedMap.erase`: What changes it.
* `Demand`: What may be asked of something that keeps rules.
* `Store.serve`, `OrderedMap.serve`: How a list of rules and a map meet a demand.
* `Demand.serveAll`: How demands are met one after the other.
* `Represents`: When a list of rules stands for a map.

## Theorems

* `Represents.values`: The rules are the values of the map, in the order of its keys.
* `represents_serve`: One demand is met by both alike.
* `represents_serveAll`: So are many.
* `store_refines_map`: A store that starts empty answers as the empty map does.
-/

namespace Rulebook

/-- A finite map that remembers in which order its keys were put in. -/
structure OrderedMap (κ α : Type) where
  /-- The keys that have a value, the oldest first. -/
  keys : List κ
  value? : κ → Option α
  nodup : keys.Nodup
  mem_keys : ∀ key, key ∈ keys ↔ (value? key).isSome = true

namespace OrderedMap

variable {κ α : Type}

/-- No key has a value. -/
def empty : OrderedMap κ α where
  keys := []
  value? _ := none
  nodup := List.nodup_nil
  mem_keys _ := by simp only [List.not_mem_nil, Option.isSome_none, Bool.false_eq_true]

/-- The values, in the order of their keys. -/
def values (map : OrderedMap κ α) : List α :=
  map.keys.filterMap map.value?

variable [DecidableEq κ]

-- The keys behind a change of one value.
theorem mem_keys_update {keys : List κ} {value? : κ → Option α} {key : κ} {value : Option α}
    (there : key ∈ keys ↔ value.isSome = true)
    (others : ∀ other, other ≠ key → (other ∈ keys ↔ (value? other).isSome = true)) (other : κ) :
    other ∈ keys ↔ (Function.update value? key value other).isSome = true := by
  by_cases h : other = key
  · subst h
    rw [Function.update_self]
    exact there
  · rw [Function.update_of_ne h]
    exact others other h

/-- Puts a value under a key: at the end if the key is new, and else into the place of
    the value that is there. -/
def put (map : OrderedMap κ α) (key : κ) (value : α) : OrderedMap κ α where
  keys := if key ∈ map.keys then map.keys else map.keys ++ [key]
  value? := Function.update map.value? key (some value)
  nodup := by
    split
    · exact map.nodup
    · next new => exact List.nodup_append.2 ⟨map.nodup, List.nodup_singleton key,
        fun a ha b hb same => new (List.mem_singleton.1 hb ▸ same ▸ ha)⟩
  mem_keys := by
    refine mem_keys_update ?_ fun other h => ?_
    · split
      · next there => exact iff_of_true there rfl
      · exact iff_of_true List.mem_concat_self rfl
    · rw [← map.mem_keys]
      split
      · exact Iff.rfl
      · simp only [List.mem_append, List.mem_singleton, h, or_false]

/-- Takes a key out, with its value. -/
def erase (map : OrderedMap κ α) (key : κ) : OrderedMap κ α where
  keys := map.keys.erase key
  value? := Function.update map.value? key none
  nodup := map.nodup.erase key
  mem_keys := by
    refine mem_keys_update ?_ fun other h => ?_
    · simp only [map.nodup.mem_erase_iff, ne_eq, not_true_eq_false, false_and,
        Option.isSome_none, Bool.false_eq_true]
    · rw [← map.mem_keys, List.mem_erase_of_ne h]

end OrderedMap

/-- What may be asked of something that keeps rules: a call, or how much there is. -/
inductive Demand where
  | call (made : Call)
  | size
  | isEmpty

namespace Demand

/-- What a demand is met with. -/
abbrev Reply : Demand → Type
  | .call made => Except Failure made.Reply
  | .size => Nat
  | .isEmpty => Bool

/-- The replies to demands that are made one after the other, and what is kept behind
    them, for anything that meets demands. -/
def serveAll {σ : Type} (serve : σ → (demand : Demand) → demand.Reply × σ) :
    σ → List Demand → List (Σ demand : Demand, demand.Reply) × σ
  | kept, [] => ([], kept)
  | kept, demand :: rest =>
    let (reply, next) := serve kept demand
    let (replies, last) := serveAll serve next rest
    (⟨demand, reply⟩ :: replies, last)

end Demand

/-- How a store meets a demand. -/
def Store.serve (store : Store) : (demand : Demand) → demand.Reply × Store
  | .call made => store.run made
  | .size => (store.size, store)
  | .isEmpty => (store.isEmpty, store)

/-- How a map of rules meets a demand. A rule is put in, as it is, under its identifier
    if that has no rule yet; a rule is changed only if it is there, and is then put into
    its own place. -/
def OrderedMap.serve (map : OrderedMap RuleId Rule) :
    (demand : Demand) → demand.Reply × OrderedMap RuleId Rule
  | .call .list => (.ok map.values, map)
  | .call (.create rule) =>
    match map.value? rule.id with
    | none => (.ok (), map.put rule.id rule)
    | some _ => (.error { text := "duplicate rule id " ++ rule.id.text }, map)
  | .call (.get id) => (.ok (map.value? id), map)
  | .call (.update id fields now) =>
    match map.value? id with
    | none => (.ok none, map)
    | some rule => (.ok (some (rule.apply fields now)), map.put id (rule.apply fields now))
  | .call (.delete id) => (.ok (map.value? id).isSome, map.erase id)
  | .size => (map.keys.length, map)
  | .isEmpty => (map.keys.isEmpty, map)

/-- A list of rules stands for a map: it has the keys in their order, and finds what the
    map holds. -/
structure Represents (store : Store) (map : OrderedMap RuleId Rule) : Prop where
  keys : store.rules.map (·.id) = map.keys
  value? : ∀ id, store.find? id = map.value? id

namespace Represents

variable {store : Store} {map : OrderedMap RuleId Rule}

theorem distinct (h : Represents store map) : store.Distinct := by
  unfold Store.Distinct
  rw [h.keys]
  exact map.nodup

-- An identifier has a rule exactly if it is a key.
theorem mem_keys (h : Represents store map) (id : RuleId) :
    id ∈ map.keys ↔ (store.find? id).isSome = true := by
  rw [map.mem_keys, h.value?]

/-- The rules are the values of the map, in the order of its keys. -/
theorem values (h : Represents store map) : map.values = store.rules := by
  have found : ∀ rule ∈ store.rules, (map.value? ∘ (·.id)) rule = some rule := by
    intro rule there
    rw [Function.comp_apply, ← h.value?]
    exact (Store.find?_eq_some_iff h.distinct).2 ⟨there, rfl⟩
  rw [OrderedMap.values, ← h.keys, List.filterMap_map, List.filterMap_congr found,
    List.filterMap_some]

end Represents

/-! ## One operation -/

section

variable {store : Store} {map : OrderedMap RuleId Rule}

theorem represents_empty : Represents Store.empty OrderedMap.empty :=
  ⟨rfl, fun _ => rfl⟩

-- A rule with a new identifier is put at the end of both.
theorem represents_create (h : Represents store map) {rule : Rule}
    (new : store.find? rule.id = none) :
    Represents ⟨store.rules ++ [rule]⟩ (map.put rule.id rule) := by
  have notKey : rule.id ∉ map.keys := by
    rw [h.mem_keys, new]
    exact Bool.false_ne_true
  constructor
  · rw [List.map_append, h.keys]
    exact (if_neg notKey).symm
  · intro id
    simp only [Store.find?, OrderedMap.put, List.find?_append, List.find?_singleton]
    by_cases same : id = rule.id
    · subst same
      have missed : store.rules.find? (·.id = rule.id) = none := new
      simp only [missed, Function.update_self, decide_true, Option.none_or, if_true]
    · have others : store.rules.find? (·.id = id) = map.value? id := h.value? id
      simp only [others, Function.update_of_ne same, Ne.symm same, decide_false,
        Bool.false_eq_true, if_false, Option.or_none]

-- A rule that is there is changed in its place, and no other rule is.
theorem represents_update (h : Represents store map) {id : RuleId} {rule : Rule}
    (there : store.find? id = some rule) (fields : Fields) (now : Instant) :
    Represents (store.update id fields now) (map.put id (rule.apply fields now)) := by
  have key : id ∈ map.keys := by
    rw [h.mem_keys, there]
    rfl
  constructor
  · rw [Store.map_id_update, h.keys]
    exact (if_pos key).symm
  · intro other
    rw [Store.find?_update]
    by_cases same : id = other
    · subst same
      simp only [if_true, there, OrderedMap.put, Function.update_self, Option.map_some]
    · simp only [same, if_false, OrderedMap.put, Function.update_of_ne (Ne.symm same), h.value?]

-- Where no rule has the identifier, a change changes nothing.
theorem represents_update_none (h : Represents store map) {id : RuleId}
    (missing : store.find? id = none) (fields : Fields) (now : Instant) :
    Represents (store.update id fields now) map := by
  constructor
  · rw [Store.map_id_update, h.keys]
  · intro other
    rw [Store.find?_update, ← h.value?]
    by_cases same : id = other
    · rw [if_pos same, ← same, missing]
      rfl
    · rw [if_neg same]

-- A rule is taken out of both, and the others stay as they stand.
theorem represents_delete (h : Represents store map) (id : RuleId) :
    Represents (store.delete id) (map.erase id) := by
  constructor
  · have left : (map.erase id).keys = map.keys.filter (· != id) := map.nodup.erase_eq_filter id
    have kept : ∀ rule ∈ store.rules, ((· != id) ∘ (·.id)) rule = decide (rule.id ≠ id) := by
      intro rule _
      rw [Function.comp_apply, decide_not]
      rfl
    rw [Store.rules_delete, left, ← h.keys, List.filter_map, List.filter_congr kept]
  · intro other
    rw [Store.find?_delete]
    by_cases same : id = other
    · subst same
      simp only [if_true, OrderedMap.erase, Function.update_self]
    · simp only [same, if_false, OrderedMap.erase, Function.update_of_ne (Ne.symm same), h.value?]

end

/-! ## Demands -/

/-- One demand is met by a list and by the map that it stands for alike, and the list
    stands for the map behind it as well. -/
theorem represents_serve {store : Store} {map : OrderedMap RuleId Rule}
    (h : Represents store map) (demand : Demand) :
    (store.serve demand).1 = (map.serve demand).1 ∧
      Represents (store.serve demand).2 (map.serve demand).2 := by
  cases demand with
  | size =>
    refine ⟨?_, h⟩
    simp only [Store.serve, OrderedMap.serve, Store.size, ← h.keys, List.length_map]
  | isEmpty =>
    refine ⟨?_, h⟩
    simp only [Store.serve, OrderedMap.serve, Store.isEmpty, ← h.keys, List.isEmpty_map]
  | call made =>
    cases made with
    | list => exact ⟨congrArg Except.ok h.values.symm, h⟩
    | get id => exact ⟨congrArg Except.ok (h.value? id), h⟩
    | create rule =>
      simp only [Store.serve, Store.run, OrderedMap.serve, ← h.value?]
      cases hfind : store.find? rule.id with
      | none =>
        rw [Store.create_eq_ok_iff.2 ⟨hfind, rfl⟩]
        exact ⟨rfl, represents_create h hfind⟩
      | some taken =>
        have refused : store.create rule = .error (Store.taken rule.id) :=
          Store.create_eq_error_iff.2 ⟨by rw [hfind]; exact Option.some_ne_none taken, rfl⟩
        rw [refused]
        exact ⟨rfl, h⟩
    | update id fields now =>
      simp only [Store.serve, Store.run, OrderedMap.serve, ← h.value?, Store.find?_update,
        if_true]
      cases hfind : store.find? id with
      | none => exact ⟨rfl, represents_update_none h hfind fields now⟩
      | some rule => exact ⟨rfl, represents_update h hfind fields now⟩
    | delete id =>
      refine ⟨?_, represents_delete h id⟩
      simp only [Store.serve, Store.run, OrderedMap.serve, h.value?]

/-- Demands that are made one after the other are met by both alike. -/
theorem represents_serveAll {store : Store} {map : OrderedMap RuleId Rule}
    (h : Represents store map) (demands : List Demand) :
    (Demand.serveAll Store.serve store demands).1 =
        (Demand.serveAll OrderedMap.serve map demands).1 ∧
      Represents (Demand.serveAll Store.serve store demands).2
        (Demand.serveAll OrderedMap.serve map demands).2 := by
  induction demands generalizing store map with
  | nil => exact ⟨rfl, h⟩
  | cons demand rest ih =>
    rcases represents_serve h demand with ⟨reply, next⟩
    rcases ih next with ⟨replies, last⟩
    refine ⟨?_, last⟩
    simp only [Demand.serveAll, reply, replies]

/-- Whatever is asked of a store that starts empty, in whatever order and with whatever
    rules: every reply is the one that the map gives, and behind it the store holds the
    values of the map in the order of its keys, and finds under an identifier what the
    map has there. So the list that it shows has as many rules as it says. -/
theorem store_refines_map (demands : List Demand) :
    let list := Demand.serveAll Store.serve Store.empty demands
    let map := Demand.serveAll OrderedMap.serve OrderedMap.empty demands
    list.1 = map.1 ∧ list.2.rules = map.2.values ∧ (∀ id, list.2.find? id = map.2.value? id) ∧
      list.2.size = map.2.values.length ∧ list.2.isEmpty = map.2.values.isEmpty := by
  intro list map
  rcases represents_serveAll represents_empty demands with ⟨replies, stands⟩
  have rules : list.2.rules = map.2.values := stands.values.symm
  refine ⟨replies, rules, stands.value?, ?_, ?_⟩
  · rw [← rules]
    rfl
  · rw [← rules]
    rfl

end Rulebook

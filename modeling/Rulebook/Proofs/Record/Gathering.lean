import Rulebook.Proofs.Record.Acceptance
import Rulebook.Proofs.Record.RoundTrip

/-!
# What Has Been Gathered

The reader gathers members as they come, and what it has gathered in the end is hard to
see from the way it went. Looked at key by key it is simple. Under a name nothing is
said, and the key has no entry; or one thing is said, and it is the entry; or there is
no second case, because what is said twice is refused. Names of no column play no part,
and neither does the order among different names.

A list says the same under the names of its columns, one after the other. So of lists
nothing more has to be shown than that a list is gathered like the object with these
members, if it is not too long and ends where a record may end.

## Main definitions

* `sensesOf`: What is said under a name.
* `Filled`: How what is said under a name changes the entry of its key.
* `fieldsOf`: The members of the object that a list stands for.
* `Shape.takes`: Which lengths of a list a record takes.

## Theorems

* `gatherFields?_eq_some_iff`: What is gathered of an object, key by key.
* `gatherItems?_eq`: A list is gathered like an object.
-/

namespace Rulebook
namespace Record

open Json
open Text (Octets)

/-- What is said under a name, in the order in which it is said. -/
def sensesOf (name : String) (fields : List (String × Sense)) : List Sense :=
  (fields.filter (·.1 = name)).map (·.2)

theorem sensesOf_cons_self (name : String) (sense : Sense) (fields : List (String × Sense)) :
    sensesOf name ((name, sense) :: fields) = sense :: sensesOf name fields := by
  simp only [sensesOf, List.filter_cons, decide_true, if_true, List.map_cons]

theorem sensesOf_cons_of_ne {name other : String} (h : other ≠ name) (sense : Sense)
    (fields : List (String × Sense)) :
    sensesOf name ((other, sense) :: fields) = sensesOf name fields := by
  simp only [sensesOf, List.filter_cons, h, decide_false, Bool.false_eq_true, if_false]

/-! ## What is gathered -/

/-- How what is said under the name of a key changes the entry there, of whatever kind
    it is. -/
def Filled (kind : Kind) (before : Option kind.Entry) :
    List Sense → Option kind.Entry → Prop
  | [], after => after = before
  | [sense], after => before = none ∧ (kind.entry? sense).isSome ∧ after = kind.entry? sense
  | _ :: _ :: _, _ => False

theorem column?_eq_some {α : Type} {shape : Shape α} {name : String} {key : Key}
    (h : shape.column? name = some key) : key ∈ shape.columns ∧ key.written = name := by
  have same := List.find?_some (p := fun k : Key => decide (k.written = name)) h
  exact ⟨List.mem_of_find?_eq_some h, of_decide_eq_true same⟩

theorem column?_eq_none {α : Type} {shape : Shape α} {name : String}
    (h : shape.column? name = none) : ∀ key ∈ shape.columns, key.written ≠ name := by
  intro key hkey same
  exact absurd (decide_eq_true same) (List.find?_eq_none.1 h key hkey)

-- An entry that is there already leaves no place for another.
theorem not_filled_cons {kind : Kind} {before after : Option kind.Entry} {sense : Sense}
    {senses : List Sense} (h : before.isSome = true) :
    ¬ Filled kind before (sense :: senses) after := by
  cases senses with
  | nil =>
    rintro ⟨none, -⟩
    rw [none] at h
    exact Bool.false_ne_true h
  | cons second more => exact id

theorem not_filled_of_none {kind : Kind} {before after : Option kind.Entry} {sense : Sense}
    {senses : List Sense} (h : kind.entry? sense = none) :
    ¬ Filled kind before (sense :: senses) after := by
  cases senses with
  | nil =>
    rintro ⟨-, said, -⟩
    rw [h] at said
    exact Bool.false_ne_true said
  | cons second more => exact id

-- What is put first is as good as what is said first.
theorem filled_some_iff {kind : Kind} {after : Option kind.Entry} {sense : Sense}
    {entry : kind.Entry} (h : kind.entry? sense = some entry) (senses : List Sense) :
    Filled kind (some entry) senses after ↔ Filled kind none (sense :: senses) after := by
  cases senses with
  | nil => simp only [Filled, h, Option.isSome_some, true_and]
  | cons second more =>
    exact ⟨fun filled => absurd filled (not_filled_cons rfl), fun filled => filled.elim⟩

/-- What is gathered of an object, key by key. -/
theorem gatherFields?_eq_some_iff {α : Type} (shape : Shape α) (fields : List (String × Sense)) :
    ∀ {g gathered : Gathered}, gatherFields? shape g fields = some gathered ↔
      ∀ key, if key ∈ shape.columns then
          Filled key.kind (g key) (sensesOf key.written fields) (gathered key)
        else gathered key = g key := by
  induction fields with
  | nil =>
    intro g gathered
    have same : ∀ key, (if key ∈ shape.columns then
        Filled key.kind (g key) (sensesOf key.written []) (gathered key)
        else gathered key = g key) ↔ gathered key = g key := fun key => by
      split <;> rfl
    rw [forall_congr' same]
    constructor
    · intro h key
      rw [Option.some.inj h]
    · intro h
      exact congrArg some (funext h).symm
  | cons field fields ih =>
    intro g gathered
    rcases field with ⟨name, sense⟩
    rw [gatherFields?_cons, gatherField?]
    cases column : shape.column? name with
    | none =>
      -- A name of no column is none that anything is said of.
      rw [Option.bind_some, ih]
      refine forall_congr' fun key => ?_
      by_cases known : key ∈ shape.columns
      · rw [if_pos known, if_pos known,
          sensesOf_cons_of_ne (Ne.symm (column?_eq_none column key known))]
      · rw [if_neg known, if_neg known]
    | some key =>
      rcases column?_eq_some column with ⟨known, rfl⟩
      simp only
      by_cases there : (g key).isSome = true
      · rw [if_pos there, Option.bind_none]
        refine iff_of_false (by simp only [reduceCtorEq, not_false_eq_true]) fun filled => ?_
        have atKey := filled key
        rw [if_pos known, sensesOf_cons_self] at atKey
        exact not_filled_cons there atKey
      · rw [if_neg there]
        cases entry : key.kind.entry? sense with
        | none =>
          rw [Option.map_none, Option.bind_none]
          refine iff_of_false (by simp only [reduceCtorEq, not_false_eq_true]) fun filled => ?_
          have atKey := filled key
          rw [if_pos known, sensesOf_cons_self] at atKey
          exact not_filled_of_none entry atKey
        | some made =>
          rw [Option.map_some, Option.bind_some, ih]
          refine forall_congr' fun other => ?_
          by_cases same : key = other
          · subst same
            rw [if_pos known, if_pos known, sensesOf_cons_self, Gathered.put_self,
              Option.not_isSome_iff_eq_none.1 there]
            exact filled_some_iff entry _
          · have differs : key.written ≠ other.written := fun h => same (Key.written_injective h)
            rw [Gathered.put_of_ne same, sensesOf_cons_of_ne differs]

/-! ## Lists -/

/-- The members of the object that a list stands for. -/
def fieldsOf (keys : List Key) (senses : List Sense) : List (String × Sense) :=
  (keys.map Key.written).zip senses

/-- Whether a list of some length is neither too long nor lacks what a record needs. -/
def Shape.takes {α : Type} (shape : Shape α) : List Key → Nat → Bool
  | [], length => length = 0
  | key :: keys, 0 => shape.mayLack key && shape.takes keys 0
  | _ :: keys, length + 1 => shape.takes keys length

/-- A list of such a length is gathered like an object, and no other list is. -/
theorem gatherItems?_eq {α : Type} {shape : Shape α} {keys : List Key} :
    ∀ {g : Gathered} (senses : List Sense), keys.Nodup → (∀ key ∈ keys, key ∈ shape.columns) →
      (∀ key ∈ keys, g key = none) →
      gatherItems? shape keys g senses =
        if shape.takes keys senses.length then gatherFields? shape g (fieldsOf keys senses)
        else none := by
  induction keys with
  | nil =>
    intro g senses _ _ _
    cases senses <;> rfl
  | cons key keys ih =>
    intro g senses distinct known fresh
    rw [List.nodup_cons] at distinct
    rw [List.forall_mem_cons] at known fresh
    cases senses with
    | nil =>
      -- Nothing is gathered any more, on either side.
      have behind := ih (g := g) [] distinct.2 known.2 fresh.2
      rw [fieldsOf, List.zip_nil_right] at behind ⊢
      rw [gatherItems?, behind, List.length_nil, Shape.takes]
      cases shape.mayLack key <;> rfl
    | cons sense senses =>
      have field : gatherField? shape g (key.written, sense) =
          (key.kind.entry? sense).map (g.put key) := by
        rw [gatherField?, column?_written known.1]
        simp only [fresh.1, Option.isSome_none, Bool.false_eq_true, if_false]
      rw [gatherItems?, fieldsOf, List.map_cons, List.zip_cons_cons, gatherFields?_cons, field,
        List.length_cons, Shape.takes]
      cases key.kind.entry? sense with
      | none => split <;> rfl
      | some entry => exact ih senses distinct.2 known.2 (put_fresh distinct.1 fresh.2 entry)

end Record
end Rulebook

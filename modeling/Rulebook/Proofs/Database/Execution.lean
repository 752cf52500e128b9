import Rulebook.Proofs.Database.Row
import Rulebook.Proofs.Database.Table
import Rulebook.Proofs.Store.Distinct

/-!
# Rules in a Table

A rule is kept as a tuple of the values that it is bound to. For a table that
consists of rules in this way, what the statements of the calls do to its tuples
can be told in terms of the rules: which of them are found, and which rules the
table consists of afterwards. Nothing is said of the order of the tuples.

The statements are taken at their words, as `Sql.read` reads them, so a value
that is bound in the wrong place would show here.

## Main definitions

* `tupleOf`: A rule as a tuple.
* `Storable`: What the database can keep of a rule, and gives back.
* `Sound`: Rules that can be kept together.
* `parametersOf`, `commandOf`: What a call is bound to, and what it says.

## Theorems

* `ofCall_eq`, `isWellFormed_ofCall`: A call is put as a statement that fits the
  table.
* `violation?_rules`: A table of sound rules is in order.
* `evaluate_list`, `evaluate_get`, `evaluate_create`, `evaluate_update`,
  `evaluate_delete`: What the statements do to a table of rules.
-/

namespace Rulebook
namespace Database

open Sql (Tuple Command Pick Schema evaluate perform isSendable ruleColumns rulesSchema)

/-- A rule as a tuple. -/
def tupleOf (rule : Rule) : Tuple :=
  ruleColumns.zip (ruleParameters rule)

/-- What the database can keep of a rule, and gives back as it was. -/
structure Storable (rule : Rule) : Prop where
  sendable : (ruleParameters rule).all isSendable = true
  created : Countable rule.createdAt
  updated : Countable rule.updatedAt
  ordered : rule.createdAt ≤ rule.updatedAt

/-- Rules that can be kept together. -/
structure Sound (rules : List Rule) : Prop where
  distinct : (rules.map (·.id)).Nodup
  storable : ∀ rule ∈ rules, Storable rule

theorem Sound.of_perm {rules others : List Rule} (sound : Sound rules)
    (h : others.Perm rules) : Sound others where
  distinct := (h.map _).nodup_iff.2 sound.distinct
  storable rule hrule := sound.storable rule (h.mem_iff.1 hrule)

/-! ## Statements -/

/-- What a call is bound to. -/
def parametersOf : Call → List Parameter
  | .list => []
  | .create rule => ruleParameters rule
  | .get id => [.text id.text]
  | .update id fields now =>
    [.text id.text, .text fields.name, optionalText fields.description, .text fields.condition,
      .text fields.action, .flag fields.isActive, .time (microsOf now.floorMicros)]
  | .delete id => [.text id.text]

/-- The rows with the identifier that is bound first. -/
def byId : Pick := ⟨"id", .bound 1⟩

/-- The values of a new row. -/
def values : List Sql.Term :=
  [.bound 1, .bound 2, .bound 3, .bound 4, .bound 5, .bound 6, .bound 7, .bound 8]

/-- The changes of an update. -/
def changes : List (String × Sql.Term) :=
  [("name", .bound 2), ("description", .bound 3), ("condition", .bound 4), ("action", .bound 5),
    ("is_active", .bound 6), ("updated_at", .greatest (.bound 7) (.column "updated_at"))]

/-- What a call says. -/
def commandOf : Call → Command
  | .list => .select ruleColumns "rules" none ["created_at", "id"]
  | .create _ => .insert "rules" ruleColumns values
  | .get _ => .select ruleColumns "rules" (some byId) []
  | .update .. => .update "rules" changes byId ruleColumns
  | .delete _ => .delete "rules" byId

/-- A call is put as a statement that says what it should. -/
theorem ofCall_eq (call : Call) : Statement.ofCall call =
    .prepared (Sql.textOf (Statement.ofCall call)) (parametersOf call) := by
  cases call <;> rfl

theorem read_ofCall (call : Call) :
    Sql.read (Sql.textOf (Statement.ofCall call)) = some (commandOf call) := by
  cases call with
  | list => exact Sql.read_list
  | create rule => exact Sql.read_create rule
  | get id => exact Sql.read_get id
  | update id fields now => exact Sql.read_update id fields now
  | delete id => exact Sql.read_delete id

/-- The statement of a call fits the table and the values that are bound to it. -/
theorem isWellFormed_ofCall (call : Call) :
    (commandOf call).isWellFormed rulesSchema (parametersOf call) = true := by
  cases call with
  | list => rfl
  | create rule =>
    rcases rule with ⟨_, ⟨_, description?, _, _, _⟩, _, _⟩
    cases description? <;> rfl
  | get id => rfl
  | update id fields now =>
    rcases fields with ⟨_, description?, _, _, _⟩
    cases description? <;> rfl
  | delete id => rfl

/-! ## Tuples of rules -/

theorem value_createdAt (rule : Rule) :
    (tupleOf rule).value "created_at" = .time (microsOf rule.createdAt) :=
  rfl

theorem value_updatedAt (rule : Rule) :
    (tupleOf rule).value "updated_at" = .time (microsOf rule.updatedAt) :=
  rfl

-- A rule is sent back as its row.
theorem row_tupleOf (rule : Rule) : rulesSchema.row ruleColumns (tupleOf rule) = Row.ofRule rule :=
  rfl

theorem admits_tupleOf (rule : Rule) : rulesSchema.admits (tupleOf rule) = true := by
  rcases rule with ⟨_, ⟨_, description?, _, _, _⟩, _, _⟩
  cases description? <;> rfl

-- A rule that was not changed before it was created passes the check.
theorem checks_tupleOf {rule : Rule} (storable : Storable rule) :
    rulesSchema.checks (tupleOf rule) = true := by
  have ordered : microsOf rule.createdAt ≤ microsOf rule.updatedAt :=
    (microsOf_le_iff storable.created storable.updated).2 storable.ordered
  simp only [Schema.checks, rulesSchema, List.all_cons, List.all_nil, Bool.and_true,
    value_createdAt, value_updatedAt, ordered, decide_true]

theorem keys_rules (rules : List Rule) :
    rulesSchema.keys (rules.map tupleOf) = rules.map fun rule => .text rule.id.text := by
  simp only [Schema.keys, rulesSchema, List.map_map]
  rfl

-- The keys of a table of rules are their identifiers.
theorem nodup_keys_rules (rules : List Rule) :
    (rulesSchema.keys (rules.map tupleOf)).Nodup ↔ (rules.map (·.id)).Nodup := by
  -- Two identifiers are one if their texts are.
  have injective : Function.Injective fun id : RuleId => Parameter.text id.text := by
    intro a b h
    rcases a with ⟨a⟩
    rcases b with ⟨b⟩
    simpa only [Parameter.text.injEq, RuleId.mk.injEq] using h
  have keys : rulesSchema.keys (rules.map tupleOf) =
      (rules.map (·.id)).map fun id => Parameter.text id.text := by
    rw [keys_rules, List.map_map]
    rfl
  rw [keys, List.nodup_map_iff injective]

theorem all_admits_rules (rules : List Rule) :
    (rules.map tupleOf).all rulesSchema.admits = true := by
  rw [List.all_map, List.all_eq_true]
  intro rule _
  exact admits_tupleOf rule

theorem all_checks_rules {rules : List Rule} (storable : ∀ rule ∈ rules, Storable rule) :
    (rules.map tupleOf).all rulesSchema.checks = true := by
  rw [List.all_map, List.all_eq_true]
  intro rule hrule
  exact checks_tupleOf (storable rule hrule)

/-- A table of sound rules is in order. -/
theorem violation?_rules {rules : List Rule} (sound : Sound rules) :
    rulesSchema.violation? (rules.map tupleOf) = none := by
  unfold Schema.violation?
  rw [if_neg (not_not_intro (all_admits_rules rules)),
    if_neg (not_not_intro (all_checks_rules sound.storable)),
    if_neg (not_not_intro ((nodup_keys_rules rules).2 sound.distinct))]

-- If rules that can be kept cannot be kept together, it is for their keys.
theorem violation?_duplicate {rules : List Rule} (storable : ∀ rule ∈ rules, Storable rule)
    (repeated : ¬ (rules.map (·.id)).Nodup) :
    rulesSchema.violation? (rules.map tupleOf) = some .duplicate := by
  unfold Schema.violation?
  rw [if_neg (not_not_intro (all_admits_rules rules)),
    if_neg (not_not_intro (all_checks_rules storable)),
    if_pos (fun h => repeated ((nodup_keys_rules rules).1 h))]

/-! ## What is done -/

theorem filter_map_tupleOf (rules : List Rule) {p : Tuple → Bool} {q : Rule → Bool}
    (h : ∀ rule, p (tupleOf rule) = q rule) :
    (rules.map tupleOf).filter p = (rules.filter q).map tupleOf := by
  rw [List.filter_map]
  congr 1
  exact List.filter_congr fun rule _ => h rule

-- A tuple is meant exactly if its rule has the identifier.
theorem holds_byId (parameters : List Parameter) (id : RuleId)
    (first : parameters.head? = some (.text id.text)) (rule : Rule) :
    byId.holds parameters (tupleOf rule) = decide (rule.id = id) := by
  cases parameters with
  | nil => cases first
  | cons parameter rest =>
    rw [List.head?_cons, Option.some.injEq] at first
    subst first
    rcases rule with ⟨⟨text⟩, _, _, _⟩
    rcases id with ⟨other⟩
    change (decide (Parameter.text text = .text other) && decide (Parameter.text other ≠ .null)) = _
    simp only [Parameter.text.injEq, RuleId.mk.injEq, ne_eq, reduceCtorEq, not_false_eq_true,
      decide_true, Bool.and_true]

theorem evaluate_list (rules : List Rule) :
    evaluate rulesSchema (parametersOf .list) (rules.map tupleOf) (commandOf .list) =
      .ok {
        found := rules.map tupleOf
        columns := ruleColumns
        order := ["created_at", "id"]
        affected := (rules.map tupleOf).length
        table := rules.map tupleOf } := by
  simp only [evaluate, perform, parametersOf, commandOf, List.all_nil, if_true, Option.all_none,
    List.filter_true]

theorem evaluate_get (rules : List Rule) {id : RuleId}
    (sendable : (parametersOf (.get id)).all isSendable = true) :
    evaluate rulesSchema (parametersOf (.get id)) (rules.map tupleOf) (commandOf (.get id)) =
      .ok {
        found := (rules.filter (·.id = id)).map tupleOf
        columns := ruleColumns
        affected := ((rules.filter (·.id = id)).map tupleOf).length
        table := rules.map tupleOf } := by
  have found := filter_map_tupleOf rules (holds_byId (parametersOf (.get id)) id rfl)
  rw [evaluate, if_pos sendable]
  simp only [perform, commandOf, Option.all_some, found]

-- The tuple that is put in is that of the rule.
theorem tuple_create (rule : Rule) :
    rulesSchema.tuple (ruleColumns.zip (values.map (·.eval (parametersOf (.create rule)) []))) =
      tupleOf rule :=
  rfl

theorem evaluate_create (rules : List Rule) {rule : Rule} (storable : Storable rule) :
    evaluate rulesSchema (parametersOf (.create rule)) (rules.map tupleOf)
        (commandOf (.create rule)) =
      rulesSchema.settle { affected := 1, table := (rules ++ [rule]).map tupleOf } := by
  have sendable : (parametersOf (.create rule)).all isSendable = true := storable.sendable
  rw [evaluate, if_pos sendable]
  simp only [perform, commandOf, tuple_create, List.map_append, List.map_cons, List.map_nil]

-- The later of two times has the greater count.
theorem greatest_micros {a b : Instant} (ha : Countable a) (hb : Countable b) :
    Sql.greatest (.time (microsOf a)) (.time (microsOf b)) =
      .time (microsOf (Instant.later a b)) := by
  have order := microsOf_le_iff ha hb
  simp only [Sql.greatest, Instant.later, Parameter.time.injEq]
  by_cases h : a ≤ b
  · rw [if_pos h]
    exact Int.max_eq_right (order.2 h)
  · rw [if_neg h]
    have later : ¬ microsOf a ≤ microsOf b := fun hle => h (order.1 hle)
    exact Int.max_eq_left (by omega)

-- The tuple of a rule is changed to that of the changed rule.
theorem change_tupleOf {rule : Rule} (updated : Countable rule.updatedAt) (id : RuleId)
    (fields : Fields) {now : Instant} (countable : Countable now.floorMicros) :
    (tupleOf rule).change (parametersOf (.update id fields now)) changes =
      tupleOf (rule.apply fields now) := by
  -- The two differ in how the later time is found: by its count, or before it is
  -- counted.
  have later : tupleOf (rule.apply fields now) =
      ruleColumns.zip [.text rule.id.text, .text fields.name, optionalText fields.description,
        .text fields.condition, .text fields.action, .flag fields.isActive,
        .time (microsOf rule.createdAt),
        Sql.greatest (.time (microsOf now.floorMicros)) (.time (microsOf rule.updatedAt))] := by
    rw [greatest_micros countable updated]
    rfl
  rw [later]
  rfl

theorem evaluate_update {rules : List Rule} (storable : ∀ rule ∈ rules, Storable rule)
    {id : RuleId} {fields : Fields} {now : Instant} (countable : Countable now.floorMicros)
    (sendable : (parametersOf (.update id fields now)).all isSendable = true) :
    evaluate rulesSchema (parametersOf (.update id fields now)) (rules.map tupleOf)
        (commandOf (.update id fields now)) =
      rulesSchema.settle {
        found := ((rules.filter (·.id = id)).map (·.apply fields now)).map tupleOf
        columns := ruleColumns
        affected := ((rules.filter (·.id = id)).map tupleOf).length
        table := (rules.map fun rule =>
          if rule.id = id then rule.apply fields now else rule).map tupleOf } := by
  have holds := holds_byId (parametersOf (.update id fields now)) id rfl
  have found : ((rules.filter (·.id = id)).map tupleOf).map
      (·.change (parametersOf (.update id fields now)) changes) =
        ((rules.filter (·.id = id)).map (·.apply fields now)).map tupleOf := by
    rw [List.map_map, List.map_map]
    apply List.map_congr_left
    intro rule hrule
    exact change_tupleOf (storable rule (List.mem_of_mem_filter hrule)).updated id fields countable
  -- Rule by rule: those with the identifier are changed, and no others.
  have table : (rules.map tupleOf).map (fun tuple =>
      if byId.holds (parametersOf (.update id fields now)) tuple then
        tuple.change (parametersOf (.update id fields now)) changes else tuple) =
        (rules.map fun rule => if rule.id = id then rule.apply fields now else rule).map
          tupleOf := by
    rw [List.map_map, List.map_map]
    apply List.map_congr_left
    intro rule hrule
    simp only [Function.comp_apply, holds rule, decide_eq_true_eq]
    by_cases hid : rule.id = id
    · rw [if_pos hid, if_pos hid]
      exact change_tupleOf (storable rule hrule).updated id fields countable
    · rw [if_neg hid, if_neg hid]
  rw [evaluate, if_pos sendable]
  simp only [perform, commandOf, filter_map_tupleOf rules holds, found, table]

theorem evaluate_delete (rules : List Rule) {id : RuleId}
    (sendable : (parametersOf (.delete id)).all isSendable = true) :
    evaluate rulesSchema (parametersOf (.delete id)) (rules.map tupleOf)
        (commandOf (.delete id)) =
      .ok {
        affected := ((rules.filter (·.id = id)).map tupleOf).length
        table := (rules.filter (·.id ≠ id)).map tupleOf } := by
  have holds := holds_byId (parametersOf (.delete id)) id rfl
  have kept : (rules.map tupleOf).filter
      (fun tuple => !byId.holds (parametersOf (.delete id)) tuple) =
        (rules.filter (·.id ≠ id)).map tupleOf := by
    apply filter_map_tupleOf
    intro rule
    rw [holds rule, decide_not]
  rw [evaluate, if_pos sendable]
  simp only [perform, commandOf, filter_map_tupleOf rules holds, kept]

end Database
end Rulebook

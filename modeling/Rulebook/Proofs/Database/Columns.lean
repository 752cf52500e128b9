import Mathlib.Data.List.Forall2
import Rulebook.Database.Session
import Rulebook.Proofs.Database.Execution

/-!
# Columns by Name

A rule is bound by place and read by name. Which place goes with which name is said in
the text of one statement only, so that text is read here, and the values are put into
the columns that it names. From a row of these columns, in whatever order they come, the
same rule is read.

What is read of other rows can be told column by column. An entry is made out exactly if
there is a column of its name and what stands there is of a type that fits; what is
missing has no type, and only a description may be missing. So the type of its column may
be any at all as long as nothing stands there, and it would be too much to ask for a row
that is typed throughout. A row that lacks one entry is no rule, and among several rows
the first such row decides, whatever stands behind it.

What is not there and what has failed are kept apart: that nothing is there is said by a
reply without rows, or one that changed none, and by no refusal.

## Main definitions

* `Holds`, `Row.Honest`: Cells as a database sends them.
* `Row.Shows`, `Row.Has`, `Row.Full`: What a row says of the entries of a rule.
* `Row.Typed`: A row with columns of the right types, even where nothing stands.
* `placed`: What a statement puts into which column.

## Theorems

* `microsOf_of_instantOf?`: A count that the calendar has is that of its instant.
* `exists_rule`, `rule_of_not_full`: A rule is made out of the full rows, and of no others.
* `placed_create`: What is bound to file a rule is put into the columns of the rule.
* `mapM_rule_of_full`, `mapM_of_first`: Rows are read up to the first bad one.
* `rows_read_back`: What is written is what is read, and absence is no failure.
* `rule_retyped`: Where a description is missing, the type of its column is not looked at.
* `untyped_read`: A row that is not typed throughout and is read as a rule.
-/

namespace Rulebook

open Record (Key Kind)

namespace Database

open Sql (Tuple rulesSchema)

/-- A cell that holds a value of a type, as a database sends it. Of the types that no
    entry is made out of nothing is said. -/
inductive Holds (type : String) : Cell → Prop
  | missing : Holds type none
  | text (s : String) (fits : type ∈ fitting .text) : Holds type (some (Text.octets s))
  | flag (b : Bool) (fits : type ∈ fitting .flag) : Holds type (some [if b then 1 else 0])
  /-- A count of microseconds, at a time that the calendar has. -/
  | time {micros : Int} {a : Instant} (representable : instantOf? micros = some a)
    (fits : type ∈ fitting .time) : Holds type (some (eightOctets micros))
  | other (bs : Text.Octets) (strange : ∀ kind, type ∉ fitting kind) : Holds type (some bs)

namespace Row

/-- Every cell of a row holds a value of the type of its column. -/
def Honest (row : Row) : Prop :=
  ∀ column cell, (column, cell) ∈ row → Holds column.type cell

/-- In the column of an entry stands what it is bound as. -/
def Shows (row : Row) (key : Key) (entry : key.kind.Entry) : Prop :=
  ∃ column, row.column? key.written = some (column, (bound key.kind entry).cell)

/-- There is a column for an entry, and in it a value of a type that fits. Only a
    description may be missing, and what is missing has no type. -/
def Has (row : Row) (key : Key) : Prop :=
  ∃ column cell, row.column? key.written = some (column, cell) ∧
    match cell with
    | some _ => column.type ∈ fitting key.kind
    | none => key = .description

/-- A row shows a rule, entry by entry. -/
def ShowsRule (row : Row) (rule : Rule) : Prop :=
  ∀ key, row.Shows key (rule.entry key)

/-- There is a column for every entry of a rule. -/
def Full (row : Row) : Prop :=
  ∀ key ∈ Rule.shape.columns, row.Has key

/-- There is a column of the right type for every entry of a rule, whatever stands there,
    and only a description is missing. -/
def Typed (row : Row) : Prop :=
  ∀ key ∈ Rule.shape.columns, ∃ column cell, row.column? key.written = some (column, cell) ∧
    column.type ∈ fitting key.kind ∧ (cell = none → key = .description)

/-- A rule as a row, with some type for the column of the description. -/
def retyped (rule : Rule) (type : String) : Row :=
  Rule.shape.columns.map fun key =>
    (⟨key.written, if key = .description then type else thereName key.kind⟩,
      (bound key.kind (rule.entry key)).cell)

end Row

/-- The values that a statement puts into columns, under the names of those. -/
def placed : Statement → Tuple
  | .prepared sql parameters =>
    match Sql.read sql with
    | some (.insert _ columns terms) => columns.zip (terms.map (·.eval parameters []))
    | _ => []
  | .script _ => []

/-! ## Entries -/

/-- A count that the calendar has is that of its instant, which is counted exactly. -/
theorem microsOf_of_instantOf? {micros : Int} {a : Instant} (h : instantOf? micros = some a) :
    Countable a ∧ microsOf a = micros := by
  unfold instantOf? Instant.of? at h
  split at h
  · have same := Option.some.inj h
    have seconds : a.seconds = micros / 1000000 + epochSeconds := by rw [← same]
    have nanos : a.nanos = (micros % 1000000).toNat * 1000 := by rw [← same]
    have exact : Countable a := ⟨decide_eq_true (by omega), by omega⟩
    refine ⟨exact, ?_⟩
    rw [microsOf_eq exact, seconds, nanos]
    omega
  · exact absurd h (by simp only [reduceCtorEq, not_false_eq_true])

-- No type fits entries of two kinds, unless the same types fit both.
theorem eq_of_fitting {a b : Kind} :
    ∀ type ∈ fitting a, type ∈ fitting b → fitting a = fitting b := by
  cases a <;> cases b <;> decide

/-- A value of a type that fits is that of an entry. -/
theorem exists_bound {type : String} {kind : Kind} {bs : Text.Octets}
    (holds : Holds type (some bs)) (fits : type ∈ fitting kind) :
    ∃ entry : kind.Entry, Exact kind entry ∧ (bound kind entry).cell = some bs := by
  cases holds with
  | text s textual =>
    cases kind with
    | text => exact ⟨s, trivial, rfl⟩
    | textOrNull => exact ⟨some s, trivial, rfl⟩
    | flag | time => exact absurd (eq_of_fitting _ textual fits) (by decide)
  | flag b switch =>
    cases kind with
    | flag => exact ⟨b, trivial, rfl⟩
    | text | textOrNull | time => exact absurd (eq_of_fitting _ switch fits) (by decide)
  | @time micros a representable timely =>
    rcases microsOf_of_instantOf? representable with ⟨exact, same⟩
    cases kind with
    | time => exact ⟨a, exact, by rw [bound, same]; rfl⟩
    | text | textOrNull | flag => exact absurd (eq_of_fitting _ timely fits) (by decide)
  | other bs strange => exact absurd fits (strange kind)

section

variable {row : Row} {key : Key}

/-- An entry that a row has and shows is made out. -/
theorem entry_of_shows {entry : key.kind.Entry} (exact : Exact key.kind entry)
    (has : row.Has key) (shows : row.Shows key entry) : row.entry key = .ok entry := by
  rcases shows with ⟨column, found⟩
  rcases has with ⟨other, cell, foundOther, fits⟩
  obtain ⟨rfl, rfl⟩ := Prod.mk.inj (Option.some.inj (foundOther.symm.trans found))
  refine entry_of_column? found ?_
  cases stands : (bound key.kind entry).cell with
  | some bs =>
    rw [stands] at fits
    rw [← stands]
    exact decode_bound exact fits
  | none =>
    -- What is missing is a description, and is decoded whatever the type.
    rw [stands] at fits
    obtain rfl : key = .description := fits
    cases entry with
    | none => rfl
    | some s => exact absurd stands (by simp only [bound, optionalText, Parameter.cell,
        reduceCtorEq, not_false_eq_true])

/-- A row that has an entry shows one, if it is as a database sends it. -/
theorem exists_shows (honest : row.Honest) (has : row.Has key) :
    ∃ entry, Exact key.kind entry ∧ row.Shows key entry := by
  rcases has with ⟨column, cell, found, fits⟩
  have holds := honest column cell (mem_of_column? found).1
  cases cell with
  | some bs =>
    rcases exists_bound holds fits with ⟨entry, exact, stands⟩
    exact ⟨entry, exact, column, by rw [stands]; exact found⟩
  | none =>
    obtain rfl : key = .description := fits
    exact ⟨none, trivial, column, found⟩

/-- An entry that a row does not have is not made out. -/
theorem entry_of_not_has (lacks : ¬ row.Has key) : ∃ failure, row.entry key = .error failure := by
  unfold Row.entry
  cases found : row.column? key.written with
  | none => exact ⟨_, rfl⟩
  | some hit =>
    rcases hit with ⟨column, cell⟩
    cases cell with
    | some bs =>
      -- The type does not fit, or the row would have the entry.
      have strange : (fitting key.kind).contains column.type = false := by
        rw [← Bool.not_eq_true, List.contains_iff_mem]
        exact fun fits => lacks ⟨column, some bs, found, fits⟩
      simp only [decode, strange, Bool.false_eq_true, if_false]
      exact ⟨_, rfl⟩
    | none =>
      have needed : key ≠ .description := fun h => lacks ⟨column, none, found, h⟩
      cases key with
      | description => exact absurd rfl needed
      | _ => exact ⟨_, rfl⟩

end

/-! ## Rules -/

section

variable {row : Row} {rule : Rule}

/-- A full row is that of a rule, which is made out of it. -/
theorem exists_rule (honest : row.Honest) (full : row.Full) :
    ∃ rule, row.rule = .ok rule ∧ row.ShowsRule rule := by
  have shown : ∀ key, ∃ entry, row.entry key = .ok entry ∧ row.Shows key entry := by
    intro key
    have has := full key (mem_columns key)
    rcases exists_shows honest has with ⟨entry, exact, shows⟩
    exact ⟨entry, entry_of_shows exact has shows, shows⟩
  choose entry made shows using shown
  let rule : Rule :=
    { id := ⟨entry .id⟩
      fields := ⟨entry .name, entry .description, entry .condition, entry .action, entry .isActive⟩
      createdAt := entry .createdAt
      updatedAt := entry .updatedAt }
  have same : ∀ key, rule.entry key = entry key := fun key => by cases key <;> rfl
  refine ⟨rule, rule_eq_ok_iff.2 fun key => ?_, fun key => ?_⟩
  · rw [same, made]
  · rw [same]
    exact shows key

/-- Out of a row that lacks an entry no rule is made. -/
theorem rule_of_not_full (lacks : ¬ row.Full) : ∃ failure, row.rule = .error failure := by
  cases made : row.rule with
  | error failure => exact ⟨failure, rfl⟩
  | ok rule =>
    refine absurd (fun key _ => ?_) lacks
    by_contra missing
    rcases entry_of_not_has missing with ⟨failure, refused⟩
    rw [rule_eq_ok_iff.1 made key] at refused
    exact absurd refused (by simp only [reduceCtorEq, not_false_eq_true])

-- A rule comes back in cells as a database sends them.
theorem honest_ofRule (created : Countable rule.createdAt) (updated : Countable rule.updatedAt) :
    (Row.ofRule rule).Honest := by
  intro column cell mem
  rw [ofRule_eq] at mem
  rcases List.mem_map.1 mem with ⟨key, -, same⟩
  rcases Prod.mk.inj same with ⟨rfl, rfl⟩
  cases key with
  | id | name | condition | action => exact .text _ (by decide)
  | description =>
    simp only [Rule.entry, bound]
    cases rule.fields.description with
    | none => exact .missing
    | some s => exact .text s (by decide)
  | isActive => exact .flag _ (by decide)
  | createdAt => exact .time (instantOf?_microsOf created.whole created.noLeap) (by decide)
  | updatedAt => exact .time (instantOf?_microsOf updated.whole updated.noLeap) (by decide)

theorem full_of_perm (same : row.Perm (Row.ofRule rule)) : row.Full := by
  intro key _
  refine ⟨_, _, column?_of_perm same key, ?_⟩
  cases key with
  | description =>
    simp only [Rule.entry, bound]
    cases rule.fields.description with
    | none => trivial
    | some s => exact thereName_fits .textOrNull
  | _ => exact thereName_fits _

-- The columns keep their names under whatever types.
theorem column?_retyped (rule : Rule) (type : String) (key : Key) :
    (Row.retyped rule type).column? key.written =
      some (⟨key.written, if key = .description then type else thereName key.kind⟩,
        (bound key.kind (rule.entry key)).cell) := by
  have names : (Row.retyped rule type).map (·.1.name) = Rule.shape.columns.map (·.written) := rfl
  have distinct : ((Row.retyped rule type).map (·.1.name)).Nodup := by
    rw [names]
    decide
  exact column?_of_mem distinct (List.mem_map.2 ⟨key, mem_columns key, rfl⟩)

/-- Where a description is missing, the type of its column is not looked at. -/
theorem rule_retyped (created : Countable rule.createdAt)
    (updated : Countable rule.updatedAt) (missing : rule.fields.description = none)
    (type : String) : (Row.retyped rule type).rule = .ok rule := by
  refine rule_eq_ok_iff.2 fun key => entry_of_column? (column?_retyped rule type key) ?_
  by_cases described : key = .description
  · subst described
    rw [Rule.entry, missing]
    rfl
  · rw [if_neg described]
    refine decode_bound ?_ (thereName_fits _)
    cases key with
    | createdAt => exact created
    | updatedAt => exact updated
    | _ => trivial

end

/-- By the statement that files a rule its values are put into its columns. -/
theorem placed_create (rule : Rule) :
    placed (Statement.ofCall (.create rule)) = tupleOf rule := by
  rw [ofCall_eq]
  simp only [placed, Sql.read_create]
  rfl

/-! ## Replies -/

/-- The first that cannot be read decides, whatever stands behind it. -/
theorem mapM_of_first {α β ε : Type} {read : α → Except ε β} {first last : List α} {bad : α}
    {fault : ε} (good : ∀ a ∈ first, ∃ b, read a = .ok b) (refused : read bad = .error fault) :
    (first ++ bad :: last).mapM read = .error fault := by
  induction first with
  | nil =>
    rw [List.nil_append, List.mapM_cons, refused]
    rfl
  | cons a rest ih =>
    rcases good a List.mem_cons_self with ⟨b, made⟩
    rw [List.cons_append, List.mapM_cons, made,
      ih fun other mem => good other (List.mem_cons_of_mem _ mem)]
    rfl

/-- Rows that are all full are read as the rules that they show, in order. -/
theorem mapM_rule_of_full {rows : List Row} (honest : ∀ row ∈ rows, row.Honest)
    (full : ∀ row ∈ rows, row.Full) :
    ∃ rules, rows.mapM Row.rule = .ok rules ∧ List.Forall₂ Row.ShowsRule rows rules := by
  induction rows with
  | nil => exact ⟨[], rfl, .nil⟩
  | cons row rest ih =>
    rcases exists_rule (honest row List.mem_cons_self) (full row List.mem_cons_self) with
      ⟨rule, made, shows⟩
    rcases ih (fun other mem => honest other (List.mem_cons_of_mem _ mem))
      (fun other mem => full other (List.mem_cons_of_mem _ mem)) with ⟨rules, read, shown⟩
    refine ⟨rule :: rules, ?_, .cons shows shown⟩
    rw [List.mapM_cons, made, read]
    rfl

-- As long as a session is open, what a call comes to is what the reply amounts to.
theorem result_ask (session : Session) (call : Call) (reply : Reply) :
    (session.ask call reply).result =
      if session.closed then .error closedFailure else concludeReply call reply := by
  unfold Session.ask Session.exchange
  split <;> rfl

-- Of rows, nothing is made only if there are none.
theorem firstRule_eq_none_iff {rows : List Row} : firstRule rows = .ok none ↔ rows = [] := by
  cases rows with
  | nil => simp only [firstRule]
  | cons row rest =>
    cases made : row.rule <;> simp [firstRule, made, Except.map]

/-- A call that asks for one rule comes to nothing exactly if the reply is without rows. -/
theorem result_eq_none_iff {session : Session} {reply : Reply}
    {found : Except Failure (Option Rule)}
    (comes : found = if session.closed then .error closedFailure else
      match reply with
      | .refused message => .error (refusal message)
      | .dropped => .error droppedFailure
      | .rows rows _ => firstRule rows) :
    found = .ok none ↔ session.closed = false ∧ ∃ affected, reply = .rows [] affected := by
  rw [comes]
  cases session.closed with
  | true => simp
  | false =>
    cases reply with
    | rows rows affected => simp [firstRule_eq_none_iff]
    | refused message => simp
    | dropped => simp

/-- What a rule is bound to by the statement that files it is read back from the columns
    that the statement names, in whatever order these come in a row.

    The rows of a listing are read, in their order, as the rules that they show, if all of
    them are full. If not, the first that is not decides: no rule is told of, and the
    failure is the one of that row. Cells are taken to be as a database sends them. Where
    a description is missing there is nothing that could have a wrong type, so that only
    its column has to be there.

    One rule is found to be missing exactly if the reply is without rows, and nothing is
    found to be removed exactly if no row was concerned. A statement that is refused, and
    one that is not answered, is a failure. -/
theorem rows_read_back :
    (∀ rule : Rule, Countable rule.createdAt → Countable rule.updatedAt →
      let values := placed (Statement.ofCall (.create rule))
      values.map (·.2) = ruleParameters rule ∧
        ∀ row : Row, row.Perm (rulesSchema.row (values.map (·.1)) values) →
          row.rule = .ok rule) ∧
    ∀ session : Session,
      (session.closed = false → ∀ (rows : List Row) (affected : Nat),
        (∀ row ∈ rows, row.Honest) →
          let result := (session.ask .list (.rows rows affected)).result
          ((∀ row ∈ rows, row.Full) →
            ∃ rules, result = .ok rules ∧ List.Forall₂ Row.ShowsRule rows rules) ∧
          ∀ first bad last, rows = first ++ bad :: last → (∀ row ∈ first, row.Full) →
            ¬ bad.Full → ∃ failure, bad.rule = .error failure ∧ result = .error failure) ∧
      (∀ (reply : Reply) (id : RuleId) (fields : Fields) (now : Instant),
        ((session.ask (.get id) reply).result = .ok none ↔
          session.closed = false ∧ ∃ affected, reply = .rows [] affected) ∧
        ((session.ask (.update id fields now) reply).result = .ok none ↔
          session.closed = false ∧ ∃ affected, reply = .rows [] affected) ∧
        ((session.ask (.delete id) reply).result = .ok false ↔
          session.closed = false ∧ ∃ rows, reply = .rows rows 0)) ∧
      ∀ call : Call,
        (∀ message, (session.ask call (.refused message)).result =
          .error (if session.closed then closedFailure else refusal message)) ∧
        (session.ask call .dropped).result =
          .error (if session.closed then closedFailure else droppedFailure) := by
  refine ⟨fun rule created updated => ?_, fun session => ⟨fun isOpen rows affected honest => ?_,
    fun reply id fields now => ⟨?_, ?_, ?_⟩, fun call => ⟨fun message => ?_, ?_⟩⟩⟩
  · rw [placed_create]
    exact ⟨rfl, fun row same => rule_of_perm created updated same⟩
  · intro result
    have comes : result = rows.mapM Row.rule := by
      simp only [result, result_ask, isOpen, Bool.false_eq_true, if_false]
      rfl
    rw [comes]
    refine ⟨mapM_rule_of_full honest, ?_⟩
    rintro first bad last rfl full lacks
    rcases rule_of_not_full lacks with ⟨failure, refused⟩
    refine ⟨failure, refused, mapM_of_first (fun row mem => ?_) refused⟩
    rcases exists_rule (honest row (List.mem_append_left _ mem)) (full row mem) with
      ⟨rule, made, -⟩
    exact ⟨rule, made⟩
  · refine result_eq_none_iff ((result_ask ..).trans ?_)
    cases reply <;> rfl
  · refine result_eq_none_iff ((result_ask ..).trans ?_)
    cases reply <;> rfl
  · rw [result_ask]
    cases session.closed with
    | true => simp
    | false =>
      cases reply with
      | rows rows affected => simp [concludeReply]
      | refused message => simp
      | dropped => simp [concludeReply]
  · rw [result_ask, concludeReply_refused]
    split <;> rfl
  · rw [result_ask]
    cases call <;> split <;> rfl

-- A rule from before 1970 without a description, its columns the other way round; and a
-- listing of it in front of a row that has lost the last column.
theorem rows_read_back_reversed :
    let early : Instant := ⟨-3000000001, 999999000, by decide, by decide, by decide⟩
    let late : Instant := ⟨1700000000, 1000, by decide, by decide, by decide⟩
    let rule : Rule := ⟨⟨"é"⟩, ⟨"n", none, "c", "a", false⟩, early, late⟩
    let rows : List Row := [Row.ofRule rule, (Row.ofRule rule).dropLast]
    Countable early ∧ Countable late ∧ Row.rule (Row.ofRule rule).reverse = .ok rule ∧
      (∀ row ∈ rows, row.Honest) ∧ (Row.ofRule rule).Full ∧ ¬ Row.Full (Row.ofRule rule).dropLast ∧
      ∃ failure, Row.rule (Row.ofRule rule).dropLast = .error failure ∧
        (({} : Session).ask .list (.rows rows 0)).result = .error failure := by
  intro early late rule rows
  have created : Countable early := ⟨by decide, by decide⟩
  have updated : Countable late := ⟨by decide, by decide⟩
  have honest : ∀ row ∈ rows, row.Honest := by
    have honest : (Row.ofRule rule).Honest := honest_ofRule created updated
    intro row mem column cell inside
    refine honest column cell ?_
    rcases List.mem_cons.1 mem with rfl | last
    · exact inside
    · rw [List.mem_singleton.1 last] at inside
      exact (List.dropLast_sublist _).subset inside
  have full : (Row.ofRule rule).Full := full_of_perm (List.Perm.refl _)
  have lacks : ¬ Row.Full (Row.ofRule rule).dropLast := by
    intro all
    rcases all .updatedAt (by decide) with ⟨column, cell, found, -⟩
    rcases mem_of_column? found with ⟨mem, named⟩
    have mem' := List.mem_map_of_mem (f := fun hit : Column × Cell => hit.1.name) mem
    have names : (Row.ofRule rule).dropLast.map (·.1.name) =
        ["id", "name", "description", "condition", "action", "is_active", "created_at"] := rfl
    rw [names, named] at mem'
    exact absurd mem' (by decide)
  have law := rows_read_back
  have listed := ((law.2 {}).1 rfl rows 0 honest).2 [Row.ofRule rule] (Row.ofRule rule).dropLast []
    rfl (List.forall_mem_singleton.2 full) lacks
  have stored := law.1 rule created updated
  rw [placed_create] at stored
  exact ⟨created, updated, stored.2 _ (List.reverse_perm _), honest, full, lacks, listed⟩

/-- A listing of one row, in which the description is missing from a column of numbers.
    The row is not typed throughout, and yet it is read as the rule that it shows. -/
theorem untyped_read :
    let time : Instant := ⟨0, 0, by decide, by decide, by decide⟩
    let rule : Rule := ⟨⟨"a"⟩, ⟨"n", none, "c", "d", true⟩, time, time⟩
    let row := Row.retyped rule "INT8"
    row.column? "description" = some (⟨"description", "INT8"⟩, none) ∧ ¬ row.Typed ∧
      (({} : Session).ask .list (.rows [row] 0)).result = .ok [rule] := by
  intro time rule row
  have found : row.column? "description" = some (⟨"description", "INT8"⟩, none) :=
    column?_retyped rule "INT8" .description
  have countable : Countable time := ⟨by decide, by decide⟩
  refine ⟨found, fun typed => ?_, ?_⟩
  · rcases typed .description (by decide) with ⟨column, cell, there, fits, -⟩
    obtain ⟨rfl, -⟩ := Prod.mk.inj (Option.some.inj (found.symm.trans there))
    exact absurd fits (by decide)
  · have read : row.rule = .ok rule := rule_retyped countable countable rfl "INT8"
    rw [result_ask]
    change [row].mapM Row.rule = .ok [rule]
    rw [List.mapM_cons, read]
    rfl

end Database

end Rulebook

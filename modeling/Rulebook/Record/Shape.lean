import Rulebook.Draft

/-!
# Shapes of Records

Drafts, fields and rules are written as records: objects whose members have
known names, or lists of the same entries in the order of the columns. What a
member may hold hangs on its name alone. Reading gathers the entries as they
come, in any order, and only then looks whether enough of them are there; so a
shape is a title, its columns, and the way to build a value from what has been
gathered.

## Main definitions

* `Kind`, `Kind.Entry`: What a member may hold.
* `Key`: The names that members may have.
* `Gathered`: The entries that have been read.
* `Shape`: A title, columns, and what is built of them.
* `Draft.shape`, `Fields.shape`, `Rule.shape`: The three records.

## Theorems

* `Gathered.put_self`, `Gathered.put_of_ne`: An entry is put at its key alone.
-/

namespace Rulebook
namespace Record

/-- What a member may hold. -/
inductive Kind where
  | text
  | textOrNull
  | flag
  | time
  deriving DecidableEq, Repr

/-- The values of a kind. -/
abbrev Kind.Entry : Kind → Type
  | .text => String
  | .textOrNull => Option String
  | .flag => Bool
  | .time => Instant

/-- How a kind is named where something else stands. -/
def Kind.wanted : Kind → String
  | .text | .textOrNull => "a string"
  | .flag => "a boolean"
  | .time => "an RFC 3339 formatted date and time string"

/-- The members of a record. -/
inductive Key where
  | id
  | name
  | description
  | condition
  | action
  | isActive
  | createdAt
  | updatedAt
  deriving DecidableEq, Repr

namespace Key

/-- The name of a member as it is written. -/
def written : Key → String
  | .id => "id"
  | .name => "name"
  | .description => "description"
  | .condition => "condition"
  | .action => "action"
  | .isActive => "is_active"
  | .createdAt => "created_at"
  | .updatedAt => "updated_at"

/-- What a member may hold. -/
abbrev kind : Key → Kind
  | .id | .name | .condition | .action => .text
  | .description => .textOrNull
  | .isActive => .flag
  | .createdAt | .updatedAt => .time

-- No two members are written with one name.
theorem written_injective {a b : Key} (h : a.written = b.written) : a = b := by
  cases a <;> cases b <;> simp_all [written]

end Key

/-- The entries that have been read, each at its key. -/
abbrev Gathered := (key : Key) → Option key.kind.Entry

namespace Gathered

/-- Nothing has been read. -/
def empty : Gathered := fun _ => none

/-- Puts an entry at its key. -/
def put (g : Gathered) (key : Key) (entry : key.kind.Entry) : Gathered := fun k =>
  if h : key = k then some (h ▸ entry) else g k

/-- The entry at a key, or else the key that has none. -/
def need (g : Gathered) (key : Key) : Except Key key.kind.Entry :=
  match g key with
  | some entry => .ok entry
  | none => .error key

/-- An entry is found at its key. -/
@[simp] theorem put_self (g : Gathered) (key : Key) (entry : key.kind.Entry) :
    g.put key entry key = some entry := by
  simp [put]

/-- Other keys are left alone. -/
@[simp] theorem put_of_ne {g : Gathered} {key k : Key} {entry : key.kind.Entry} (h : key ≠ k) :
    g.put key entry k = g k := by
  simp [put, h]

end Gathered

/-- A kind of record. -/
structure Shape (α : Type) where
  /-- How a refusal calls the record. -/
  title : String
  /-- The members, in their order. -/
  columns : List Key
  /-- Whether a list may end without a member. -/
  mayLack : Key → Bool
  /-- The value that consists of the gathered entries, or else the first member
      that is missing. -/
  build : Gathered → Except Key α

/-- How a refusal calls a list that is too short. -/
def Shape.wantedLength {α : Type} (shape : Shape α) : String :=
  shape.title ++ " with " ++ toString shape.columns.length ++ " elements"

/-- The column with a written name, if the record has one. -/
def Shape.column? {α : Type} (shape : Shape α) (name : String) : Option Key :=
  shape.columns.find? (·.written = name)

end Record

open Record (Shape)

/-- Drafts: a description and the switch may be left out, and a draft without a
    switch is on. -/
def Draft.shape : Shape Draft where
  title := "struct RuleInput"
  columns := [.name, .description, .condition, .action, .isActive]
  mayLack key := key = .description ∨ key = .isActive
  build g := do
    let name ← g.need .name
    let condition ← g.need .condition
    let action ← g.need .action
    return {
      proposed := {
        name, condition, action
        description := (g .description).getD none
        isActive := (g .isActive).getD true } }

/-- Fields: of an object, the description may be left out. -/
def Fields.shape : Shape Fields where
  title := "struct RuleFields"
  columns := [.name, .description, .condition, .action, .isActive]
  mayLack _ := false
  build g := do
    let name ← g.need .name
    let condition ← g.need .condition
    let action ← g.need .action
    let isActive ← g.need .isActive
    return { name, condition, action, isActive, description := (g .description).getD none }

/-- Rules: of an object, the description may be left out. -/
def Rule.shape : Shape Rule where
  title := "struct Rule"
  columns := [.id, .name, .description, .condition, .action, .isActive, .createdAt, .updatedAt]
  mayLack _ := false
  build g := do
    let id ← g.need .id
    let name ← g.need .name
    let condition ← g.need .condition
    let action ← g.need .action
    let isActive ← g.need .isActive
    let createdAt ← g.need .createdAt
    let updatedAt ← g.need .updatedAt
    return {
      id := ⟨id⟩
      fields := { name, condition, action, isActive, description := (g .description).getD none }
      createdAt, updatedAt }

end Rulebook

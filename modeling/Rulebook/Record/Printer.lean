import Rulebook.Draft
import Rulebook.Instant.Printer
import Rulebook.Json
import Rulebook.Record.Shape

/-!
# Writing Records

Records are written as objects with all their members, in the order of the
columns; a description that is not there is written as `null`.

## Main definitions

* `Fields.members`: The members that the fields of a rule make up.
* `Fields.toJson`, `Draft.toJson`, `Rule.toJson`: The three records as values.

## Theorems

* `Fields.members_names`, `Rule.members_names`: The members are the columns.
-/

namespace Rulebook

/-- The members that the fields of a rule make up. -/
def Fields.members (fields : Fields) : List (String × Json) :=
  [(Record.Key.name.written, .text fields.name),
   (Record.Key.description.written,
    match fields.description with
    | some s => .text s
    | none => .null),
   (Record.Key.condition.written, .text fields.condition),
   (Record.Key.action.written, .text fields.action),
   (Record.Key.isActive.written, .bool fields.isActive)]

/-- Fields as a value. -/
def Fields.toJson (fields : Fields) : Json :=
  .object fields.members

/-- A draft as a value. -/
def Draft.toJson (draft : Draft) : Json :=
  .object draft.proposed.members

/-- The members of a rule. -/
def Rule.members (rule : Rule) : List (String × Json) :=
  (Record.Key.id.written, .text rule.id.text) :: rule.fields.members ++
    [(Record.Key.createdAt.written, .text rule.createdAt.text),
     (Record.Key.updatedAt.written, .text rule.updatedAt.text)]

/-- A rule as a value. -/
def Rule.toJson (rule : Rule) : Json :=
  .object rule.members

/-- The members of fields are the columns, in their order. -/
theorem Fields.members_names (fields : Fields) :
    fields.members.map (·.1) = Fields.shape.columns.map (·.written) :=
  rfl

/-- The members of a rule are the columns, in their order. -/
theorem Rule.members_names (rule : Rule) :
    rule.members.map (·.1) = Rule.shape.columns.map (·.written) :=
  rfl

end Rulebook

import Rulebook.Instant

/-!
# Rules

An expense rule has an identifier, a part that callers control, and two times.
What the condition and the action of a rule mean is for others to say: here they
are texts. The time of the last change is cut to whole microseconds, as fine as
any store keeps it, and it never moves backwards, even where the clock does.

## Main definitions

* `RuleId`: Identifiers of rules.
* `Fields`: The part of a rule that callers control.
* `Rule`: A rule.
* `Rule.create`: A new rule.
* `Rule.apply`: A rule with its fields replaced.

## Theorems

* `updatedAt_apply`: When a changed rule counts as changed.
* `updatedAt_le_apply`: The time of the last change does not move backwards.
* `createdAt_le_updatedAt_apply`: Nor does it come before that of the creation.
-/

namespace Rulebook

/-- The identifier of a rule. -/
structure RuleId where
  text : String
  deriving DecidableEq, Repr

/-- The part of a rule that callers control. -/
structure Fields where
  name : String
  description : Option String
  condition : String
  action : String
  isActive : Bool
  deriving DecidableEq, Repr

/-- An expense rule. -/
structure Rule where
  id : RuleId
  fields : Fields
  createdAt : Instant
  /-- When the fields were replaced for the last time. -/
  updatedAt : Instant
  deriving DecidableEq

namespace Rule

/-- A new rule, created and last changed now. -/
def create (id : RuleId) (fields : Fields) (now : Instant) : Rule :=
  { id, fields, createdAt := now.floorMicros, updatedAt := now.floorMicros }

/-- A rule with its fields replaced, changed now or, where the clock went
    backwards, when it was changed before. -/
def apply (rule : Rule) (fields : Fields) (now : Instant) : Rule :=
  { rule with fields, updatedAt := Instant.later now.floorMicros rule.updatedAt }

-- A replacement keeps the identifier.
@[simp] theorem id_apply (rule : Rule) (fields : Fields) (now : Instant) :
    (rule.apply fields now).id = rule.id :=
  rfl

-- A replacement puts the new fields into the place of all the old ones.
@[simp] theorem fields_apply (rule : Rule) (fields : Fields) (now : Instant) :
    (rule.apply fields now).fields = fields :=
  rfl

-- A replacement keeps the time of the creation.
@[simp] theorem createdAt_apply (rule : Rule) (fields : Fields) (now : Instant) :
    (rule.apply fields now).createdAt = rule.createdAt :=
  rfl

/-- A changed rule counts as changed at the later of two times. -/
theorem updatedAt_apply (rule : Rule) (fields : Fields) (now : Instant) :
    (rule.apply fields now).updatedAt = Instant.later now.floorMicros rule.updatedAt :=
  rfl

/-- The time of the last change does not move backwards. -/
theorem updatedAt_le_apply (rule : Rule) (fields : Fields) (now : Instant) :
    rule.updatedAt ≤ (rule.apply fields now).updatedAt :=
  Instant.le_later_right _ _

/-- A rule that was not changed before its creation still is not. -/
theorem createdAt_le_updatedAt_apply {rule : Rule} (h : rule.createdAt ≤ rule.updatedAt)
    (fields : Fields) (now : Instant) :
    (rule.apply fields now).createdAt ≤ (rule.apply fields now).updatedAt :=
  Instant.le_trans h (updatedAt_le_apply rule fields now)

-- A new rule was changed when it was created.
@[simp] theorem updatedAt_create (id : RuleId) (fields : Fields) (now : Instant) :
    (create id fields now).updatedAt = (create id fields now).createdAt :=
  rfl

end Rule
end Rulebook

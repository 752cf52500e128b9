import Rulebook.Proofs.Record.RoundTrip

/-!
# The Wire Format Loses Nothing

Rules, fields and drafts travel as compact texts. Whatever their texts hold, with
a description or without one, and at whatever two times of the calendar: the text
that is written of one is read as the very same one.

Fields and drafts have the same five columns and are written alike, but they are
built differently, since a draft fills in what is left out. Nothing is left out of
what has been written, so both are built from all five entries, and what a draft
would have filled in never comes into play.

## Main definitions

* `Fields.entries`: The entries of the fields of a rule.

## Theorems

* `readRecord_fields`, `readRecord_draft`: Fields and drafts are read as
  themselves, whatever stands behind them.
* `parseRecord_written`: What is written of a record is read as that record.
-/

namespace Rulebook

open Record (Member readRecord parseRecord)
open Text (Octets octets)

/-- The entries of the fields of a rule. -/
def Fields.entries (fields : Fields) : List Member :=
  [⟨.name, fields.name⟩, ⟨.description, fields.description⟩, ⟨.condition, fields.condition⟩,
    ⟨.action, fields.action⟩, ⟨.isActive, fields.isActive⟩]

theorem Fields.members_eq (fields : Fields) :
    fields.members = fields.entries.map Member.written := by
  rcases fields with ⟨name, description, condition, action, isActive⟩
  cases description with
  | none => rfl
  | some s => rfl

namespace Record

/-- Fields are read as themselves, whatever stands behind them. -/
theorem readRecord_fields (fields : Fields) (rest : Octets) :
    readRecord Fields.shape (octets fields.toJson.compact ++ rest) = .ok (fields, rest) := by
  rw [Json.compact, Text.octets_ofList, Fields.toJson, Fields.members_eq]
  exact readRecord_written rfl (by decide) rfl rest

/-- A draft is read as itself, whatever stands behind it. -/
theorem readRecord_draft (draft : Draft) (rest : Octets) :
    readRecord Draft.shape (octets draft.toJson.compact ++ rest) = .ok (draft, rest) := by
  rw [Json.compact, Text.octets_ofList, Draft.toJson, Fields.members_eq]
  exact readRecord_written rfl (by decide) rfl rest

/-- What is written of a rule, of fields or of a draft is read as that rule, those
    fields or that draft: whatever characters their texts hold, with a description
    or without one, and at whatever times of the calendar, leap seconds included. -/
theorem parseRecord_written :
    (∀ rule : Rule, parseRecord Rule.shape (octets rule.toJson.compact) = .ok rule) ∧
      (∀ fields : Fields,
        parseRecord Fields.shape (octets fields.toJson.compact) = .ok fields) ∧
      ∀ draft : Draft, parseRecord Draft.shape (octets draft.toJson.compact) = .ok draft :=
  ⟨fun rule => parseRecord_of_readRecord (readRecord_rule rule),
    fun fields => parseRecord_of_readRecord (readRecord_fields fields),
    fun draft => parseRecord_of_readRecord (readRecord_draft draft)⟩

end Record
end Rulebook

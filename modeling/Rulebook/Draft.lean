import Rulebook.Rule
import Rulebook.Text.Blank

/-!
# Drafts

What a caller proposes for a new rule, or in the place of an old one. A draft
says nothing of identifiers and times; it becomes the fields of a rule once its
name has been looked at.

## Main definitions

* `Draft`: Proposed fields.
* `DraftFault`: Why a draft is refused, with `DraftFault.message`.
* `Draft.accept`: The fields of a draft that may be kept.

## Theorems

* `accept_eq_ok_iff`: A draft is accepted, unchanged, when its name shows.
-/

namespace Rulebook

/-- The fields that a caller proposes. -/
structure Draft where
  proposed : Fields
  deriving DecidableEq, Repr

/-- Why a draft is refused. -/
inductive DraftFault where
  /-- The name holds nothing but blanks. -/
  | blankName
  deriving DecidableEq, Repr

/-- The wording of a refusal. -/
def DraftFault.message : DraftFault → String
  | .blankName => "name must not be empty"

namespace Draft

/-- The fields of a draft, unless nothing would be seen of its name. Blanks at
    the ends of a name are kept. -/
def accept (draft : Draft) : Except DraftFault Fields :=
  if Text.allBlank draft.proposed.name then .error .blankName else .ok draft.proposed

/-- A draft is accepted, unchanged, exactly when its name holds a character that
    is no blank. -/
theorem accept_eq_ok_iff {draft : Draft} {fields : Fields} :
    draft.accept = .ok fields ↔
      fields = draft.proposed ∧ ∃ c ∈ fields.name.toList, Text.isBlank c = false := by
  unfold accept
  constructor
  · intro h
    split at h
    · simp at h
    · rename_i hb
      simp only [Except.ok.injEq] at h
      subst h
      refine ⟨rfl, ?_⟩
      simpa [Text.allBlank_iff] using hb
  · rintro ⟨rfl, c, hc, hb⟩
    rw [if_neg]
    intro h
    have := Text.allBlank_iff.1 h c hc
    simp [hb] at this

end Draft
end Rulebook

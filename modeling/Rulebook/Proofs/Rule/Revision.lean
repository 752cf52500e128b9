import Mathlib.Order.Bounds.Defs
import Rulebook.Rule

/-!
# Rows of Revisions

A rule may be revised any number of times, by a clock that goes as it likes. What comes
out of a row of revisions can be told without going through it: the fields are those that
were put in last, and the time of the last change is the latest there ever was, be it the
one that the rule had at first or one of the readings, cut to microseconds. So the order
of the readings says nothing about that time, while of the fields only the last word
counts.

The two halves have to be kept apart. Were an older reading to hold back the fields that
come with it, or the latest fields to bring their own time with them, a row would still
look right as long as the clock goes forward.

## Main definitions

* `Revision`: New fields for a rule, and the time that is read when they come.
* `Rule.revise`: A rule after a row of revisions.

## Theorems

* `Instant.later_le_iff`: What is not before two times is not before the later one.
* `Rule.apply_apply`: What is done twice at one time is done once.
* `updatedAt_revise_le_iff`, `updatedAt_revise_mem`: The time of the last change is the
  latest of all times.
* `updatedAt_revise_perm`: It does not depend on the order of the revisions.
* `revise_closed`: What comes out of a row of revisions.
-/

namespace Rulebook

namespace Instant

theorem later_later (a b : Instant) : later a (later a b) = later a b :=
  if_pos (le_later_left a b)

/-- What is not before two times is not before the later one. -/
theorem later_le_iff {a b c : Instant} : later a b ≤ c ↔ a ≤ c ∧ b ≤ c := by
  constructor
  · intro h
    exact ⟨le_trans (le_later_left a b) h, le_trans (le_later_right a b) h⟩
  · rintro ⟨ha, hb⟩
    rcases later_eq_left_or_right a b with h | h <;> rw [h] <;> assumption

end Instant

/-- New fields for a rule, and the time that is read when they come. -/
structure Revision where
  fields : Fields
  now : Instant

namespace Rule

/-- A rule that is changed twice at one time, to the same fields, is changed once. -/
theorem apply_apply (rule : Rule) (fields : Fields) (now : Instant) :
    (rule.apply fields now).apply fields now = rule.apply fields now := by
  simp only [apply, Instant.later_later]

/-- A rule after a row of revisions. -/
def revise (rule : Rule) (revisions : List Revision) : Rule :=
  revisions.foldl (fun rule revision => rule.apply revision.fields revision.now) rule

theorem revise_cons (rule : Rule) (revision : Revision) (rest : List Revision) :
    rule.revise (revision :: rest) = (rule.apply revision.fields revision.now).revise rest :=
  rfl

theorem revise_append (rule : Rule) (first last : List Revision) :
    rule.revise (first ++ last) = (rule.revise first).revise last :=
  List.foldl_append

-- No revision touches the identifier or the time of the creation.
theorem kept_revise {α : Type} {part : Rule → α}
    (kept : ∀ (rule : Rule) (fields : Fields) (now : Instant),
      part (rule.apply fields now) = part rule) (rule : Rule) (revisions : List Revision) :
    part (rule.revise revisions) = part rule := by
  induction revisions generalizing rule with
  | nil => rfl
  | cons revision rest ih => rw [revise_cons, ih, kept]

/-- The fields are those that were put in last, all of them. -/
theorem fields_revise (rule : Rule) {revisions : List Revision} (filled : revisions ≠ []) :
    (rule.revise revisions).fields = (revisions.getLast filled).fields := by
  conv => lhs; rw [← List.dropLast_concat_getLast filled]
  rw [revise_append]
  rfl

/-! ## The time of the last change -/

/-- The time of the last change is not after a time if no time that goes into it is. -/
theorem updatedAt_revise_le_iff (rule : Rule) (revisions : List Revision) (t : Instant) :
    (rule.revise revisions).updatedAt ≤ t ↔
      rule.updatedAt ≤ t ∧ ∀ revision ∈ revisions, revision.now.floorMicros ≤ t := by
  induction revisions generalizing rule with
  | nil => simp only [revise, List.foldl_nil, List.not_mem_nil, false_implies, implies_true,
      and_true]
  | cons revision rest ih =>
    rw [revise_cons, ih, updatedAt_apply, Instant.later_le_iff, List.forall_mem_cons, and_assoc,
      and_left_comm]

/-- The time of the last change is one of the times that go into it. -/
theorem updatedAt_revise_mem (rule : Rule) (revisions : List Revision) :
    (rule.revise revisions).updatedAt = rule.updatedAt ∨
      ∃ revision ∈ revisions, (rule.revise revisions).updatedAt = revision.now.floorMicros := by
  induction revisions generalizing rule with
  | nil => exact .inl rfl
  | cons revision rest ih =>
    rw [revise_cons]
    rcases ih (rule.apply revision.fields revision.now) with kept | ⟨other, mem, reading⟩
    · rw [kept, updatedAt_apply]
      rcases Instant.later_eq_left_or_right revision.now.floorMicros rule.updatedAt with h | h
      · exact .inr ⟨revision, List.mem_cons_self, h⟩
      · exact .inl h
    · exact .inr ⟨other, List.mem_cons_of_mem _ mem, reading⟩

/-- The order of the revisions says nothing about the time of the last change. -/
theorem updatedAt_revise_perm (rule : Rule) {revisions others : List Revision}
    (same : others.Perm revisions) :
    (rule.revise others).updatedAt = (rule.revise revisions).updatedAt := by
  -- The two times are not after the same times, themselves among them.
  have bounds : ∀ t, (rule.revise others).updatedAt ≤ t ↔
      (rule.revise revisions).updatedAt ≤ t := by
    intro t
    simp only [updatedAt_revise_le_iff, same.mem_iff]
  exact Instant.le_antisymm ((bounds _).2 (Instant.le_refl _)) ((bounds _).1 (Instant.le_refl _))

/-- Further revisions do not move the time of the last change backwards. -/
theorem updatedAt_le_revise (rule : Rule) (revisions : List Revision) :
    rule.updatedAt ≤ (rule.revise revisions).updatedAt :=
  ((updatedAt_revise_le_iff rule revisions _).1 (Instant.le_refl _)).1

/-- A rule after a row of revisions, whatever times it had and however the clock went. It
    is the same rule, created when it was, with the fields of the last revision. It was
    changed at the latest of the time that it had and all readings, cut to microseconds.

    Hence that time is the same for the revisions in any other order, it is not before the
    one that any of the first revisions leave behind, and a revision that is made twice in
    a row is made once. -/
theorem revise_closed (rule : Rule) {revisions : List Revision} (filled : revisions ≠ []) :
    let revised := rule.revise revisions
    revised.id = rule.id ∧ revised.createdAt = rule.createdAt ∧
      revised.fields = (revisions.getLast filled).fields ∧
      IsGreatest
        {t | t = rule.updatedAt ∨ ∃ revision ∈ revisions, t = revision.now.floorMicros}
        revised.updatedAt ∧
      (∀ others : List Revision, others.Perm revisions →
        (rule.revise others).updatedAt = revised.updatedAt) ∧
      (∀ first last, revisions = first ++ last →
        (rule.revise first).updatedAt ≤ revised.updatedAt) ∧
      ∀ first revision last, revisions = first ++ revision :: last →
        rule.revise (first ++ revision :: revision :: last) = revised := by
  intro revised
  refine ⟨kept_revise id_apply rule revisions, kept_revise createdAt_apply rule revisions,
    fields_revise rule filled, ⟨updatedAt_revise_mem rule revisions, ?_⟩,
    fun others same => updatedAt_revise_perm rule same, ?_, ?_⟩
  · -- No time that goes into it is after the time of the last change.
    have bounds := (updatedAt_revise_le_iff rule revisions _).1 (Instant.le_refl _)
    rintro t (rfl | ⟨revision, mem, rfl⟩)
    · exact bounds.1
    · exact bounds.2 revision mem
  · rintro first last rfl
    change _ ≤ (rule.revise (first ++ last)).updatedAt
    rw [revise_append]
    exact updatedAt_le_revise _ last
  · rintro first revision last rfl
    change _ = rule.revise (first ++ revision :: last)
    rw [revise_append, revise_append, revise_cons, revise_cons, revise_cons, apply_apply]

-- The clock goes back, from inside a leap second to long before 1970: the description is
-- taken away again, and the leap second remains.
theorem revise_closed_rewound :
    let fields (description : Option String) : Fields := ⟨"a", description, "c", "d", true⟩
    let leap : Instant := ⟨1483228799, 1999999999, by decide, by decide, by decide⟩
    let early : Instant := ⟨-8334601228800, 1, by decide, by decide, by decide⟩
    let rule : Rule := ⟨⟨"x"⟩, fields none, early, early⟩
    let revisions : List Revision := [⟨fields (some "b"), leap⟩, ⟨fields none, early⟩]
    revisions ≠ [] ∧ (rule.revise revisions).fields = fields none ∧
      (rule.revise revisions).updatedAt = leap.floorMicros ∧
      leap.floorMicros.nanos = 1999999000 := by
  intro fields leap early rule revisions
  have filled : revisions ≠ [] := by decide
  have law := revise_closed rule filled
  refine ⟨filled, law.2.2.1, ?_, by decide⟩
  -- The later of the two readings bounds all times, and is one of them.
  refine Instant.le_antisymm ?_ (law.2.2.2.1.2 (.inr ⟨_, List.mem_cons_self, rfl⟩))
  rw [updatedAt_revise_le_iff]
  decide

end Rule

end Rulebook

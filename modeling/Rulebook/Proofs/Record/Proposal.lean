import Rulebook.Proofs.Record.Gathering

/-!
# What Says a Draft

A text is taken for a draft because of what it says, and nothing else about it matters:
neither the order of the members, nor blanks, nor how characters are escaped, nor any
member with a name that is not one of the five. It has to say a name, a condition and
an action, each once and as a text. What it says of a description has to be a text or
null, and what it says of the switch a flag; of either it may say nothing.

A list has to say four or five things, and says the same as the object with these
under the five names in their order.

## Main definitions

* `Acceptable`: What a draft has to say, and how often.
* `Proposes`: What a draft is that is said.
* `known`: The members with one of the five names.

## Theorems

* `exists_proposes_iff`: What is acceptable says a draft.
* `proposes_congr`: Neither order nor unknown members matter.
* `gather_draft_iff`: A draft is gathered from members that say it, and from no others.
* `parseRecord_object_iff`, `parseRecord_list_iff`: Which texts are taken for a draft, by
  what they say.
-/

namespace Rulebook
namespace Record

open Json
open Text (Octets octets)

/-- The names of the members of a draft, in the order of its columns. -/
def draftNames : List String :=
  ["name", "description", "condition", "action", "is_active"]

/-- What a text has to say to be taken for a draft: none of the five names twice, a
    name, a condition and an action as texts, and of the others nothing that is of
    another kind. -/
structure Acceptable (fields : List (String × Sense)) : Prop where
  once : ∀ name ∈ draftNames, (sensesOf name fields).length ≤ 1
  texts : ∀ name ∈ ["name", "condition", "action"], ∃ s, Sense.text s ∈ sensesOf name fields
  description : ∀ sense ∈ sensesOf "description" fields, sense = .null ∨ ∃ s, sense = .text s
  isActive : ∀ sense ∈ sensesOf "is_active" fields, ∃ b, sense = .flag b

/-- What is said of a description: a text, null, or nothing. -/
def Describes (senses : List Sense) : Option String → Prop
  | some s => senses = [.text s]
  | none => senses = [] ∨ senses = [.null]

/-- What is said of the switch: a flag, or nothing, and then it is on. -/
def Switches (senses : List Sense) (b : Bool) : Prop :=
  senses = [.flag b] ∨ senses = [] ∧ b = true

/-- What draft a text says. -/
structure Proposes (fields : List (String × Sense)) (draft : Draft) : Prop where
  name : sensesOf "name" fields = [.text draft.proposed.name]
  condition : sensesOf "condition" fields = [.text draft.proposed.condition]
  action : sensesOf "action" fields = [.text draft.proposed.action]
  description : Describes (sensesOf "description" fields) draft.proposed.description
  isActive : Switches (sensesOf "is_active" fields) draft.proposed.isActive

/-- The members with a name of a draft. -/
def known (fields : List (String × Sense)) : List (String × Sense) :=
  fields.filter fun field => field.1 ∈ draftNames

/-! ## What is acceptable -/

section

variable {α : Type}

-- What is there at most once, and is there, is all there is.
theorem eq_singleton {l : List α} {a : α} (once : l.length ≤ 1) (h : a ∈ l) : l = [a] := by
  cases l with
  | nil => cases h
  | cons b rest =>
    have nothing : rest.length = 0 := by
      rw [List.length_cons] at once
      omega
    rw [List.eq_nil_of_length_eq_zero nothing] at h ⊢
    rw [List.mem_singleton.1 h]

-- There is no other order of one thing.
theorem eq_of_perm {l m : List α} (once : l.length ≤ 1) (same : l.Perm m) : l = m := by
  cases l with
  | nil => exact (List.nil_perm.1 same).symm
  | cons a rest =>
    rw [eq_singleton once (List.mem_cons_self ..)] at same ⊢
    exact (List.perm_singleton.1 same.symm).symm

end

theorem exists_describes {senses : List Sense} (once : senses.length ≤ 1)
    (h : ∀ sense ∈ senses, sense = .null ∨ ∃ s, sense = .text s) :
    ∃ description, Describes senses description := by
  cases senses with
  | nil => exact ⟨none, .inl rfl⟩
  | cons sense rest =>
    rw [eq_singleton once (List.mem_cons_self ..)]
    rcases h sense (List.mem_cons_self ..) with rfl | ⟨s, rfl⟩
    · exact ⟨none, .inr rfl⟩
    · exact ⟨some s, rfl⟩

theorem exists_switches {senses : List Sense} (once : senses.length ≤ 1)
    (h : ∀ sense ∈ senses, ∃ b, sense = .flag b) : ∃ b, Switches senses b := by
  cases senses with
  | nil => exact ⟨true, .inr ⟨rfl, rfl⟩⟩
  | cons sense rest =>
    rw [eq_singleton once (List.mem_cons_self ..)]
    rcases h sense (List.mem_cons_self ..) with ⟨b, rfl⟩
    exact ⟨b, .inl rfl⟩

theorem Describes.once {senses : List Sense} {description : Option String}
    (h : Describes senses description) :
    senses.length ≤ 1 ∧ ∀ sense ∈ senses, sense = .null ∨ ∃ s, sense = .text s := by
  cases description with
  | some s =>
    rw [h]
    exact ⟨Nat.le_refl 1, List.forall_mem_singleton.2 (.inr ⟨s, rfl⟩)⟩
  | none =>
    rcases h with rfl | rfl
    · exact ⟨Nat.zero_le 1, List.forall_mem_nil _⟩
    · exact ⟨Nat.le_refl 1, List.forall_mem_singleton.2 (.inl rfl)⟩

theorem Switches.once {senses : List Sense} {b : Bool} (h : Switches senses b) :
    senses.length ≤ 1 ∧ ∀ sense ∈ senses, ∃ b, sense = .flag b := by
  rcases h with rfl | ⟨rfl, -⟩
  · exact ⟨Nat.le_refl 1, List.forall_mem_singleton.2 ⟨b, rfl⟩⟩
  · exact ⟨Nat.zero_le 1, List.forall_mem_nil _⟩

/-- What is acceptable says a draft, and nothing else does. -/
theorem exists_proposes_iff {fields : List (String × Sense)} :
    (∃ draft, Proposes fields draft) ↔ Acceptable fields := by
  constructor
  · rintro ⟨draft, h⟩
    refine ⟨?_, ?_, h.description.once.2, h.isActive.once.2⟩
    · simp only [draftNames, List.forall_mem_cons, h.name, h.condition, h.action]
      exact ⟨Nat.le_refl 1, h.description.once.1, Nat.le_refl 1, Nat.le_refl 1,
        h.isActive.once.1, List.forall_mem_nil _⟩
    · simp only [List.forall_mem_cons, h.name, h.condition, h.action]
      exact ⟨⟨_, List.mem_cons_self ..⟩, ⟨_, List.mem_cons_self ..⟩, ⟨_, List.mem_cons_self ..⟩,
        List.forall_mem_nil _⟩
  · intro h
    have once := h.once
    have texts := h.texts
    simp only [draftNames, List.forall_mem_cons] at once texts
    rcases texts with ⟨⟨name, hname⟩, ⟨condition, hcondition⟩, ⟨action, haction⟩, -⟩
    rcases exists_describes once.2.1 h.description with ⟨description, hdescription⟩
    rcases exists_switches once.2.2.2.2.1 h.isActive with ⟨isActive, hisActive⟩
    exact ⟨⟨⟨name, description, condition, action, isActive⟩⟩, eq_singleton once.1 hname,
      eq_singleton once.2.2.1 hcondition, eq_singleton once.2.2.2.1 haction, hdescription,
      hisActive⟩

/-! ## What does not matter -/

-- What is said under one of the five names is said among the members with these.
theorem sensesOf_known {name : String} (h : name ∈ draftNames) (fields : List (String × Sense)) :
    sensesOf name (known fields) = sensesOf name fields := by
  have passes : ∀ field ∈ fields,
      (decide (field.1 = name) && decide (field.1 ∈ draftNames)) = decide (field.1 = name) := by
    rintro ⟨other, sense⟩ -
    by_cases same : other = name
    · rw [same, decide_eq_true h, Bool.and_true]
    · rw [decide_eq_false same, Bool.false_and]
  rw [sensesOf, sensesOf, known, List.filter_filter, List.filter_congr passes]

/-- Neither the order of the members matters, nor what is said under other names. -/
theorem proposes_congr {a b : List (String × Sense)} (same : (known a).Perm (known b))
    {draft : Draft} (h : Proposes a draft) : Proposes b draft := by
  have once := (exists_proposes_iff.1 ⟨draft, h⟩).once
  have eq : ∀ name ∈ draftNames, sensesOf name a = sensesOf name b := by
    intro name hname
    refine eq_of_perm (once name hname) ?_
    rw [← sensesOf_known hname a, ← sensesOf_known hname b]
    exact (same.filter _).map _
  simp only [draftNames, List.forall_mem_cons] at eq
  rcases eq with ⟨name, description, condition, action, isActive, -⟩
  exact ⟨name ▸ h.name, condition ▸ h.condition, action ▸ h.action,
    description ▸ h.description, isActive ▸ h.isActive⟩

/-! ## What is built -/

/-- What has been gathered of a draft, where a description and a switch may be
    missing. -/
def draftEntries (name condition action : String) (description : Option (Option String))
    (isActive : Option Bool) : Gathered
  | .name => some name
  | .description => description
  | .condition => some condition
  | .action => some action
  | .isActive => isActive
  | .id | .createdAt | .updatedAt => none

/-- A draft is built of its five entries. -/
theorem build_eq_ok_iff {g : Gathered} {draft : Draft} :
    Draft.shape.build g = .ok draft ↔
      g .name = some draft.proposed.name ∧ g .condition = some draft.proposed.condition ∧
        g .action = some draft.proposed.action ∧
        draft.proposed.description = (g .description).getD none ∧
        draft.proposed.isActive = (g .isActive).getD true := by
  rcases draft with ⟨⟨name, description, condition, action, isActive⟩⟩
  simp only [Draft.shape, Gathered.need]
  cases g .name with
  | none => simp [bind, Except.bind]
  | some name' =>
    cases g .condition with
    | none => simp [bind, Except.bind]
    | some condition' =>
      cases g .action with
      | none => simp [bind, Except.bind]
      | some action' =>
        simp only [bind, Except.bind, pure, Except.pure, Except.ok.injEq, Draft.mk.injEq,
          Fields.mk.injEq, Option.some.injEq]
        constructor
        · rintro ⟨rfl, rfl, rfl, rfl, rfl⟩
          exact ⟨rfl, rfl, rfl, rfl, rfl⟩
        · rintro ⟨rfl, rfl, rfl, rfl, rfl⟩
          exact ⟨rfl, rfl, rfl, rfl, rfl⟩

section

variable {senses : List Sense}

theorem filled_text_iff {s : String} :
    Filled .text none senses (some s) ↔ senses = [.text s] := by
  rcases senses with _ | ⟨sense, _ | ⟨second, more⟩⟩
  · simp [Filled]
  · cases sense <;> simp [Filled, Kind.entry?, eq_comm]
  · simp [Filled]

theorem filled_textOrNull_iff {description : Option String} :
    (∃ after, Filled .textOrNull none senses after ∧ description = after.getD none) ↔
      Describes senses description := by
  rcases senses with _ | ⟨sense, _ | ⟨second, more⟩⟩
  · cases description <;> simp [Filled, Describes]
  · cases sense <;> cases description <;> simp [Filled, Kind.entry?, Describes, eq_comm]
  · cases description <;> simp [Filled, Describes]

theorem filled_flag_iff {b : Bool} :
    (∃ after, Filled .flag none senses after ∧ b = after.getD true) ↔ Switches senses b := by
  rcases senses with _ | ⟨sense, _ | ⟨second, more⟩⟩
  · simp [Filled, Switches]
  · cases sense <;> simp [Filled, Kind.entry?, Switches, eq_comm]
  · simp [Filled, Switches]

end

/-- A draft is gathered from members exactly if they say it. -/
theorem gather_draft_iff {fields : List (String × Sense)} {draft : Draft} :
    ((gatherFields? Draft.shape .empty fields).bind fun g =>
        (Draft.shape.build g).toOption) = some draft ↔ Proposes fields draft := by
  rw [Option.bind_eq_some_iff]
  constructor
  · rintro ⟨g, gathered, built⟩
    have filled := (gatherFields?_eq_some_iff _ _).1 gathered
    rcases build_eq_ok_iff.1 (toOption_eq_some_iff.1 built) with
      ⟨name, condition, action, description, isActive⟩
    refine ⟨filled_text_iff.1 ?_, filled_text_iff.1 ?_, filled_text_iff.1 ?_,
      filled_textOrNull_iff.1 ⟨_, ?_, description⟩, filled_flag_iff.1 ⟨_, ?_, isActive⟩⟩
    · rw [← name]
      exact filled .name
    · rw [← condition]
      exact filled .condition
    · rw [← action]
      exact filled .action
    · exact filled .description
    · exact filled .isActive
  · intro h
    rcases filled_textOrNull_iff.2 h.description with ⟨description, said, hdescription⟩
    rcases filled_flag_iff.2 h.isActive with ⟨isActive, switched, hisActive⟩
    refine ⟨draftEntries _ _ _ description isActive, (gatherFields?_eq_some_iff _ _).2 ?_,
      congrArg Except.toOption (build_eq_ok_iff.2 ⟨rfl, rfl, rfl, hdescription, hisActive⟩)⟩
    intro key
    cases key with
    | name => exact filled_text_iff.2 h.name
    | condition => exact filled_text_iff.2 h.condition
    | action => exact filled_text_iff.2 h.action
    | description => exact said
    | isActive => exact switched
    | id | createdAt | updatedAt => rfl

/-! ## What is taken -/

/-- An object is taken for the draft that its members say. -/
theorem parseRecord_object_iff {lead trail : Gap} {members : Members} {draft : Draft} :
    parseRecord Draft.shape ((Written.object members).alone lead trail) = .ok draft ↔
      ∃ fields, members.fields? = some fields ∧ Proposes fields draft := by
  rw [← toOption_eq_some_iff, parseRecord_object, Option.bind_assoc, Option.bind_eq_some_iff]
  simp only [gather_draft_iff]

-- A list lacks nothing that it needs, and is not too long.
theorem takes_draft_iff :
    {length : Nat} →
      (Draft.shape.takes Draft.shape.columns length = true ↔ length = 4 ∨ length = 5)
  | 0 | 1 | 2 | 3 | 4 | 5 => by decide
  | length + 6 => by
    refine iff_of_false ?_ (by omega)
    rw [Bool.not_eq_true]
    rfl

/-- A list is taken for the draft that is said under the five names in their order. -/
theorem parseRecord_list_iff {lead trail : Gap} {items : Items} {draft : Draft} :
    parseRecord Draft.shape ((Written.list items).alone lead trail) = .ok draft ↔
      (items.senses.length = 4 ∨ items.senses.length = 5) ∧
        Proposes (draftNames.zip items.senses) draft := by
  have fresh : ∀ key ∈ Draft.shape.columns, Gathered.empty key = none := fun _ _ => rfl
  rw [← toOption_eq_some_iff, parseRecord_list,
    gatherItems?_eq items.senses (by decide) (fun _ => id) fresh, ← takes_draft_iff]
  split
  · next takes => exact gather_draft_iff.trans (iff_and_self.2 fun _ => takes)
  · next short => exact iff_of_false (fun h => nomatch h) fun h => short h.1

end Record
end Rulebook

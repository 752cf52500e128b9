import Rulebook.Proofs.Record.Proposal

/-!
# How a Draft Is Worded

What a caller is asked for can be said of the members as they are written, without
reading them: none of the five names twice, three of the members strings, one a string
or null, one a flag. That is not quite what makes a draft. A string may name UTF-16 units
one by one, and may name half of a pair without the other half. Such a string is well
formed, and yet there is no text that it stands for.

Where a text is wanted it is refused, and that is so for every name of a member, even
for one that nobody asked for: a name has to be read before it can be passed over. In
the values of such members lone halves do no harm. So to the demand on the members there
comes one on their strings, and together the two are what is taken for a draft.

## Main definitions

* `valuesOf`: The values under a name.
* `Worded`: What is asked of members as they are written.
* `Paired`: No half of a pair stands alone where a text is wanted.
* `said`: What members say.

## Theorems

* `fields?_eq_some_iff`: Members say something if all of their names are texts.
* `acceptable_said_iff`: What is asked of members, and of what they say.
* `taken_for_draft`: Which texts are taken for which drafts.
* `lone_halves_refused`: Objects that are worded as asked and not taken.
-/

namespace Rulebook

namespace Json

/-! ## Senses -/

theorem Items.senses_eq : (items : Items) → items.senses = items.values.map Written.sense
  | .close _ => rfl
  | .item _ _ value rest => congrArg (value.sense :: ·) (Items.senses_eq rest)

theorem sense_text (s : Literal) :
    (Written.text s).sense = (s.text?.map Sense.text).getD .other :=
  rfl

-- Only a string says a text, and only if it stands for one.
theorem sense_eq_text_iff {v : Written} {t : String} :
    v.sense = .text t ↔ ∃ s, v = .text s ∧ s.text? = some t := by
  cases v with
  | text s =>
    rw [sense_text]
    cases stands : s.text? <;> simp [stands]
  | null | bool b | number n | list items | object members => simp [Written.sense]

theorem sense_eq_null_iff {v : Written} : v.sense = .null ↔ v = .null := by
  cases v with
  | text s =>
    rw [sense_text]
    cases s.text? <;> simp
  | null | bool b | number n | list items | object members => simp [Written.sense]

theorem sense_eq_flag_iff {v : Written} {b : Bool} : v.sense = .flag b ↔ v = .bool b := by
  cases v with
  | text s =>
    rw [sense_text]
    cases s.text? <;> simp
  | null | bool c | number n | list items | object members => simp [Written.sense]

end Json

namespace Record

open Json
open Text (octets)

/-- Members as they are written: what their names say, if that is a text, and their
    values. -/
abbrev Wording := List (Option String × Written)

/-- The values under a name, in their order. -/
def valuesOf (name : String) (wording : Wording) : List Written :=
  (wording.filter (·.1 = some name)).map (·.2)

/-- What is asked of the members of a draft as they are written: none of the five names
    twice, a name, a condition and an action as strings, and of the others nothing that
    is of another kind. -/
structure Worded (wording : Wording) : Prop where
  once : ∀ name ∈ draftNames, (valuesOf name wording).length ≤ 1
  texts : ∀ name ∈ ["name", "condition", "action"], ∃ s, Written.text s ∈ valuesOf name wording
  description : ∀ v ∈ valuesOf "description" wording, v = .null ∨ ∃ s, v = .text s
  isActive : ∀ v ∈ valuesOf "is_active" wording, ∃ b, v = .bool b

/-- No half of a pair of units stands alone in a name, or in a string under one of the
    five names: these strings stand for texts. -/
structure Paired (wording : Wording) : Prop where
  names : ∀ member ∈ wording, member.1 ≠ none
  texts : ∀ name ∈ draftNames, ∀ s, Written.text s ∈ valuesOf name wording → s.text? ≠ none

/-- What members say. Those with a name that is no text are left out. -/
def said (wording : Wording) : List (String × Sense) :=
  wording.filterMap fun member => member.1.map fun name => (name, member.2.sense)

/-- The members that a list stands for: its items under the five names. -/
def listed (items : Items) : Wording :=
  (draftNames.map some).zip items.values

/-! ## What members say -/

/-- Members say something if all of their names are texts, and then each of them says
    what its value says. -/
theorem fields?_eq_some_iff {fields : List (String × Sense)} : {members : Members} →
    (members.fields? = some fields ↔
      (∀ member ∈ members.entries, member.1 ≠ none) ∧ said members.entries = fields)
  | .close _ => by simp [Members.fields?, Members.entries, said]
  | .member _ _ name _ _ value rest => by
    simp only [Members.fields?, Members.entries, List.forall_mem_cons, said, List.filterMap_cons]
    cases name.text? with
    | none => simp
    | some name =>
      -- The members behind the first are taken together.
      simp only [Option.bind_eq_bind, Option.bind_some, Option.bind_eq_some_iff, Option.map_some,
        Option.pure_def, Option.some.injEq]
      constructor
      · rintro ⟨behind, read, rfl⟩
        rcases fields?_eq_some_iff.1 read with ⟨named, rfl⟩
        exact ⟨⟨Option.some_ne_none name, named⟩, rfl⟩
      · rintro ⟨⟨-, named⟩, rfl⟩
        exact ⟨_, fields?_eq_some_iff.2 ⟨named, rfl⟩, rfl⟩

@[simp] theorem valuesOf_cons_self (name : String) (v : Written) (wording : Wording) :
    valuesOf name ((some name, v) :: wording) = v :: valuesOf name wording := by
  simp [valuesOf]

theorem valuesOf_cons_of_ne {name? : Option String} {name : String} (differs : name? ≠ some name)
    (v : Written) (wording : Wording) :
    valuesOf name ((name?, v) :: wording) = valuesOf name wording := by
  simp [valuesOf, differs]

-- What is said under a name is what the values under it say.
theorem sensesOf_said (name : String) (wording : Wording) :
    sensesOf name (said wording) = (valuesOf name wording).map Written.sense := by
  induction wording with
  | nil => rfl
  | cons member rest ih =>
    rcases member with ⟨name?, v⟩
    cases name? with
    | none =>
      rw [valuesOf_cons_of_ne (Option.some_ne_none name).symm]
      exact ih
    | some other =>
      change sensesOf name ((other, v.sense) :: said rest) = _
      by_cases same : other = name
      · subst same
        rw [sensesOf_cons_self, valuesOf_cons_self, List.map_cons, ih]
      · rw [sensesOf_cons_of_ne same, valuesOf_cons_of_ne (mt Option.some.inj same), ih]

-- The items of a list say their part under the names that they come to stand under.
theorem said_listed (items : Items) : said (listed items) = draftNames.zip items.senses := by
  have named (names : List String) (values : List Written) :
      said ((names.map some).zip values) = names.zip (values.map Written.sense) := by
    induction names generalizing values with
    | nil => rfl
    | cons name names ih =>
      cases values with
      | nil => rfl
      | cons v values => exact congrArg ((name, v.sense) :: ·) (ih values)
  rw [listed, named, ← Items.senses_eq]

theorem names_listed (items : Items) : ∀ member ∈ listed items, member.1 ≠ none := by
  rintro ⟨name?, v⟩ mem
  rcases List.mem_map.1 (List.of_mem_zip mem).1 with ⟨name, -, rfl⟩
  exact Option.some_ne_none name

-- Values can be written as members, under any names.
theorem exists_members (names : List String) (values : List Written) :
    ∃ members : Members, members.entries = (names.map some).zip values := by
  induction names generalizing values with
  | nil => exact ⟨.close [], rfl⟩
  | cons name names ih =>
    cases values with
    | nil => exact ⟨.close [], rfl⟩
    | cons v values =>
      rcases ih values with ⟨rest, written⟩
      refine ⟨.member [] [] (.ofText name) [] [] v rest, ?_⟩
      rw [Members.entries, text?_ofText, written]
      rfl

/-! ## What is asked -/

-- Nothing else is said under the five names than what a draft can hold.
theorem other_notMem {fields : List (String × Sense)} (h : Acceptable fields) :
    ∀ name ∈ draftNames, Sense.other ∉ sensesOf name fields := by
  have texts : ∀ name ∈ ["name", "condition", "action"], name ∈ draftNames →
      Sense.other ∉ sensesOf name fields := by
    intro name mem known
    rcases h.texts name mem with ⟨t, there⟩
    rw [eq_singleton (h.once name known) there, List.mem_singleton]
    exact Sense.noConfusion
  intro name known other
  simp only [draftNames, List.mem_cons, List.not_mem_nil, or_false] at known
  rcases known with rfl | rfl | rfl | rfl | rfl
  · exact texts "name" (by decide) (by decide) other
  · rcases h.description .other other with null | ⟨t, text⟩
    · cases null
    · cases text
  · exact texts "condition" (by decide) (by decide) other
  · exact texts "action" (by decide) (by decide) other
  · rcases h.isActive .other other with ⟨b, flag⟩
    cases flag

/-- What members say is acceptable if they are worded as asked, and the strings among
    them stand for texts. -/
theorem acceptable_said_iff {wording : Wording} : Acceptable (said wording) ↔ Worded wording ∧
    ∀ name ∈ draftNames, ∀ s, Written.text s ∈ valuesOf name wording → s.text? ≠ none := by
  have heard {name : String} {sense : Sense} : sense ∈ sensesOf name (said wording) ↔
      ∃ v ∈ valuesOf name wording, v.sense = sense := by
    rw [sensesOf_said, List.mem_map]
  have length (name : String) :
      (sensesOf name (said wording)).length = (valuesOf name wording).length := by
    rw [sensesOf_said, List.length_map]
  constructor
  · intro h
    refine ⟨⟨fun name known => ?_, fun name mem => ?_, fun v there => ?_, fun v there => ?_⟩,
      fun name known s there lone => ?_⟩
    · rw [← length name]
      exact h.once name known
    · rcases h.texts name mem with ⟨t, there⟩
      rcases heard.1 there with ⟨v, mem, sense⟩
      rcases sense_eq_text_iff.1 sense with ⟨s, rfl, -⟩
      exact ⟨s, mem⟩
    · refine (h.description v.sense (heard.2 ⟨v, there, rfl⟩)).imp sense_eq_null_iff.1 ?_
      rintro ⟨t, text⟩
      rcases sense_eq_text_iff.1 text with ⟨s, rfl, -⟩
      exact ⟨s, rfl⟩
    · rcases h.isActive v.sense (heard.2 ⟨v, there, rfl⟩) with ⟨b, flag⟩
      exact ⟨b, sense_eq_flag_iff.1 flag⟩
    · -- A string that stands for no text says what no draft can hold.
      refine other_notMem h name known (heard.2 ⟨_, there, ?_⟩)
      rw [sense_text, lone]
      rfl
  · rintro ⟨worded, stands⟩
    have text {name : String} (known : name ∈ draftNames) {s : Literal}
        (there : Written.text s ∈ valuesOf name wording) : ∃ t, (Written.text s).sense = .text t := by
      rcases Option.ne_none_iff_exists'.1 (stands name known s there) with ⟨t, made⟩
      exact ⟨t, sense_eq_text_iff.2 ⟨s, rfl, made⟩⟩
    refine ⟨fun name known => ?_, fun name mem => ?_, fun sense there => ?_,
      fun sense there => ?_⟩
    · rw [length name]
      exact worded.once name known
    · have known : name ∈ draftNames := by
        revert name
        decide
      rcases worded.texts name mem with ⟨s, there⟩
      rcases text known there with ⟨t, sense⟩
      exact ⟨t, heard.2 ⟨_, there, sense⟩⟩
    · rcases heard.1 there with ⟨v, mem, rfl⟩
      rcases worded.description v mem with rfl | ⟨s, rfl⟩
      · exact .inl rfl
      · exact .inr (text (by decide) mem)
    · rcases heard.1 there with ⟨v, mem, rfl⟩
      rcases worded.isActive v mem with ⟨b, rfl⟩
      exact ⟨b, rfl⟩

/-- Members say something acceptable if they are worded as asked and no half of a pair
    stands alone. -/
theorem acceptable_iff {wording : Wording} :
    (∀ member ∈ wording, member.1 ≠ none) ∧ Acceptable (said wording) ↔
      Worded wording ∧ Paired wording := by
  rw [acceptable_said_iff]
  constructor
  · rintro ⟨names, worded, texts⟩
    exact ⟨worded, names, texts⟩
  · rintro ⟨worded, paired⟩
    exact ⟨paired.names, worded, paired.texts⟩

-- Three strings are enough.
theorem worded_of_texts {wording : Wording} {name condition action : Literal}
    (hname : valuesOf "name" wording = [.text name])
    (hcondition : valuesOf "condition" wording = [.text condition])
    (haction : valuesOf "action" wording = [.text action])
    (hdescription : valuesOf "description" wording = [])
    (hisActive : valuesOf "is_active" wording = []) : Worded wording := by
  constructor
  · simp [draftNames, hname, hcondition, haction, hdescription, hisActive]
  · simp [hname, hcondition, haction]
  · simp [hdescription]
  · simp [hisActive]

/-- What members say is a draft only if no half of a pair stands alone. -/
theorem proposes_iff {wording : Wording} {draft : Draft} :
    (∀ member ∈ wording, member.1 ≠ none) ∧ Proposes (said wording) draft ↔
      Paired wording ∧ Proposes (said wording) draft := by
  refine and_congr_left fun proposes => ⟨fun names => ?_, Paired.names⟩
  exact (acceptable_iff.1 ⟨names, exists_proposes_iff.1 ⟨draft, proposes⟩⟩).2

/-! ## What is taken -/

/-- An object is taken for the draft that its members say, if all halves of pairs are
    joined. -/
theorem object_taken_iff {lead trail : Gap} {members : Members} {draft : Draft} :
    parseRecord Draft.shape ((Written.object members).alone lead trail) = .ok draft ↔
      Paired members.entries ∧ Proposes (said members.entries) draft := by
  rw [parseRecord_object_iff, ← proposes_iff]
  simp only [fields?_eq_some_iff]
  constructor
  · rintro ⟨fields, ⟨names, rfl⟩, proposes⟩
    exact ⟨names, proposes⟩
  · rintro ⟨names, proposes⟩
    exact ⟨_, ⟨names, rfl⟩, proposes⟩

/-- So is a list that is long enough and not too long. -/
theorem list_taken_iff {lead trail : Gap} {items : Items} {draft : Draft} :
    parseRecord Draft.shape ((Written.list items).alone lead trail) = .ok draft ↔
      (items.values.length = 4 ∨ items.values.length = 5) ∧
        Paired (listed items) ∧ Proposes (said (listed items)) draft := by
  rw [parseRecord_list_iff, ← proposes_iff, said_listed, Items.senses_eq, List.length_map]
  exact and_congr_right fun _ => (and_iff_right (names_listed items)).symm

-- To say a draft without lone halves is to be worded as asked without them.
theorem exists_draft_iff {wording : Wording} :
    (∃ draft, Paired wording ∧ Proposes (said wording) draft) ↔
      Worded wording ∧ Paired wording := by
  rw [exists_and_left, exists_proposes_iff]
  constructor
  · rintro ⟨paired, acceptable⟩
    exact acceptable_iff.1 ⟨paired.names, acceptable⟩
  · intro h
    exact ⟨h.2, (acceptable_iff.2 h).2⟩

/-- Which texts are taken for which drafts.

    The text of an object is taken for a draft if and only if its members are worded as
    asked and no half of a pair stands alone, be it in any of the names or in a string
    under one of the five names; and then for the draft that the members say. The text of
    a list is if and only if it has four or five items that would be taken under the five
    names in their order, and then for the draft that an object with these members is
    taken for. There is such an object for every list.

    So objects in which every name is a text, and whose known members say the same in any
    order, are taken for the same draft, whatever the blanks, the escapes and the other
    members are. -/
theorem taken_for_draft :
    (∀ (lead trail : Gap) (members : Members),
      let read := parseRecord Draft.shape ((Written.object members).alone lead trail)
      ((∃ draft, read = .ok draft) ↔ Worded members.entries ∧ Paired members.entries) ∧
      ∀ draft, read = .ok draft ↔
        Paired members.entries ∧ Proposes (said members.entries) draft) ∧
    (∀ (lead trail : Gap) (items : Items),
      let read := parseRecord Draft.shape ((Written.list items).alone lead trail)
      let sized := items.values.length = 4 ∨ items.values.length = 5
      ((∃ draft, read = .ok draft) ↔ sized ∧ Worded (listed items) ∧ Paired (listed items)) ∧
      (∀ draft, read = .ok draft ↔
        sized ∧ Paired (listed items) ∧ Proposes (said (listed items)) draft) ∧
      (∃ members : Members, members.entries = listed items) ∧
      ∀ members : Members, sized → members.entries = listed items →
        read.toOption =
          (parseRecord Draft.shape ((Written.object members).alone lead trail)).toOption) ∧
    ∀ (lead trail lead' trail' : Gap) (members members' : Members),
      (∀ member ∈ members.entries, member.1 ≠ none) →
      (∀ member ∈ members'.entries, member.1 ≠ none) →
      (known (said members.entries)).Perm (known (said members'.entries)) →
      (parseRecord Draft.shape ((Written.object members).alone lead trail)).toOption =
        (parseRecord Draft.shape ((Written.object members').alone lead' trail')).toOption := by
  refine ⟨fun lead trail members => ⟨?_, fun draft => object_taken_iff⟩,
    fun lead trail items => ⟨?_, fun draft => list_taken_iff, exists_members _ _, ?_⟩, ?_⟩
  · simp only [object_taken_iff, exists_draft_iff]
  · simp only [list_taken_iff]
    rw [exists_and_left, exists_draft_iff]
  · intro members sized same
    refine Option.ext fun draft => ?_
    rw [toOption_eq_some_iff, toOption_eq_some_iff, list_taken_iff, object_taken_iff, same]
    exact and_iff_right sized
  · intro lead trail lead' trail' members members' names names' same
    refine Option.ext fun draft => ?_
    rw [toOption_eq_some_iff, toOption_eq_some_iff, object_taken_iff, object_taken_iff,
      ← proposes_iff, ← proposes_iff, and_iff_right names, and_iff_right names']
    exact ⟨proposes_congr same, proposes_congr same.symm⟩

/-- An object that says a draft. -/
def plainDraft : Members :=
  .member [] [] (.ofText "name") [] [] (.text (.ofText "a")) <|
  .member [] [] (.ofText "condition") [] [] (.text (.ofText "b")) <|
  .member [] [] (.ofText "action") [] [] (.text (.ofText "c")) <|
  .close []

/-- An object that says the same draft: the members come in another order, a blank and an
    unknown member are among them, and a character is escaped. -/
def oddDraft : Members :=
  .member [] [] (.ofText "action") [] [] (.text (.ofText "c")) <|
  .member [] [.space] (.ofText "x") [] [] (.list (.item [] [] .null (.close []))) <|
  .member [] [] (.ofText "condition") [] [] (.text (.ofText "b")) <|
  .member [] [] (.ofText "name") [] []
    (.text [.unit (.ofNat 0) (.ofNat 0) (.ofNat 6) (.ofNat 1)]) <|
  .close []

-- The texts that the two objects are written as.
def plainText : String :=
  "\x7b\"name\":\"a\",\"condition\":\"b\",\"action\":\"c\"\x7d"

def oddText : String :=
  "\x7b\"action\":\"c\", \"x\":[null],\"condition\":\"b\",\"name\":\"\\u0061\"\x7d"

/-- Two texts that say one draft are taken for it. -/
theorem taken_for_draft_reordered :
    parseRecord Draft.shape (octets plainText) = .ok ⟨⟨"a", none, "b", "c", true⟩⟩ ∧
      (parseRecord Draft.shape (octets plainText)).toOption =
        (parseRecord Draft.shape (octets oddText)).toOption := by
  have plain : (Written.object plainDraft).alone [] [] = octets plainText := by decide
  have odd : (Written.object oddDraft).alone [] [] = octets oddText := by decide
  have names : ∀ member ∈ plainDraft.entries, member.1 ≠ none := by decide
  have stands : said plainDraft.entries =
      [("name", .text "a"), ("condition", .text "b"), ("action", .text "c")] := by decide
  have proposes : Proposes (said plainDraft.entries) ⟨⟨"a", none, "b", "c", true⟩⟩ := by
    rw [stands]
    exact ⟨by decide, by decide, by decide, .inl (by decide), .inr ⟨by decide, rfl⟩⟩
  rw [← plain, ← odd]
  constructor
  · exact ((taken_for_draft.1 [] [] plainDraft).2 _).2 (proposes_iff.1 ⟨names, proposes⟩)
  · exact taken_for_draft.2.2 [] [] [] [] plainDraft oddDraft names (by decide) (by decide)

/-- The first half of a pair of units, without the second. -/
def loneHalf : Literal :=
  [.unit (.ofNat 0xD) (.ofNat 8) (.ofNat 0) (.ofNat 0)]

/-- An object with everything that makes a draft, and a member with a name that was not
    asked for. -/
def loneName : Members :=
  .member [] [] (.ofText "name") [] [] (.text (.ofText "a")) <|
  .member [] [] (.ofText "condition") [] [] (.text (.ofText "b")) <|
  .member [] [] (.ofText "action") [] [] (.text (.ofText "c")) <|
  .member [] [] loneHalf [] [] .null <|
  .close []

/-- An object in which the name is such a string. -/
def loneText : Members :=
  .member [] [] (.ofText "name") [] [] (.text loneHalf) <|
  .member [] [] (.ofText "condition") [] [] (.text (.ofText "b")) <|
  .member [] [] (.ofText "action") [] [] (.text (.ofText "c")) <|
  .close []

/-- Both are worded as asked, and neither is taken for a draft. -/
theorem lone_halves_refused :
    (Written.object loneName).alone [] [] =
      octets "\x7b\"name\":\"a\",\"condition\":\"b\",\"action\":\"c\",\"\\ud800\":null\x7d" ∧
    (Written.object loneText).alone [] [] =
      octets "\x7b\"name\":\"\\ud800\",\"condition\":\"b\",\"action\":\"c\"\x7d" ∧
    ∀ members ∈ [loneName, loneText], Worded members.entries ∧
      ¬ ∃ draft, parseRecord Draft.shape ((Written.object members).alone [] []) = .ok draft := by
  refine ⟨by decide, by decide, List.forall_mem_cons.2 ⟨⟨worded_of_texts rfl rfl rfl rfl rfl, ?_⟩,
    List.forall_mem_singleton.2 ⟨worded_of_texts rfl rfl rfl rfl rfl, ?_⟩⟩⟩
  · rintro ⟨draft, taken⟩
    have there : (none, Written.null) ∈ loneName.entries := List.mem_of_getElem? (i := 3) rfl
    exact (object_taken_iff.1 taken).1.names _ there rfl
  · rintro ⟨draft, taken⟩
    have there : Written.text loneHalf ∈ valuesOf "name" loneText.entries := List.mem_cons_self
    exact (object_taken_iff.1 taken).1.texts "name" (by decide) loneHalf there rfl

end Record
end Rulebook

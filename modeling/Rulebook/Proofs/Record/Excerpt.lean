import Rulebook.Proofs.Json.Members
import Rulebook.Proofs.Record.Proposal
import Rulebook.Record.Printer

/-!
# A Rule Taken for a Draft

A rule is shown with all its members, and a draft has some of them. So the text of a
rule can be read as a draft, and the question is what it is taken for. The printer makes
choices like any other writer: it sets no blanks, it escapes what it has to, by a letter
where there is one. What it prints is therefore one of the texts of the grammar, and what
is taken for a draft is known of all of these.

That it is the same in both directions hangs on small things. A description that is
not there is printed as `null` and not left out, a switch that is off as `false`, and the
identifier and the two times are printed under names that no draft knows.

## Main definitions

* `Letter.printed`, `Literal.printed`: A character, and a text, as they are printed.
* `Sense.toJson`, `Written.printed`: What is said as a value, and that value as it is
  printed.
* `Members.printed`: The members of an object as they are printed.
* `Rule.said`: What the members of a rule say.

## Theorems

* `Literal.text?_printed`: A text that is printed says itself.
* `Members.fields?_printed`: Members that are printed say what they were made of.
* `alone_printed`: What is printed of an object is a text of the grammar.
* `parseRecord_rule_as_draft`: The text of a rule is taken for the draft of its fields.
-/

namespace Rulebook
namespace Json

open Text (Octets encoded octets)

/-! ## Texts -/

/-- A character as it is printed: escaped by a letter if it can be, else by its number if
    it has to be. -/
def Letter.printed (c : Char) : Letter :=
  if quote : c = '"' then .short .quote
  else if backslash : c = '\\' then .short .backslash
  else if c.toNat = 8 then .short .backspace
  else if c.toNat = 9 then .short .tab
  else if c.toNat = 10 then .short .lineFeed
  else if c.toNat = 12 then .short .formFeed
  else if c.toNat = 13 then .short .carriageReturn
  else if control : c.toNat < 32 then
    .unit (.ofNat 0) (.ofNat 0) (.ofNat (c.toNat / 16)) (.ofNat c.toNat)
  else .plain c ⟨Nat.le_of_not_lt control, quote, backslash⟩

/-- A text as it is printed, without its quotes. -/
def Literal.printed (s : String) : Literal :=
  s.toList.map Letter.printed

theorem eq_ofNat_of_toNat_eq {c : Char} {n : Nat} (h : c.toNat = n) : c = Char.ofNat n := by
  rw [← h, Char.ofNat_toNat]

-- A letter is written as the printer escapes its character.
theorem Letter.octets_printed (c : Char) : (Letter.printed c).octets = encoded (escaped c) := by
  have controls : ∀ n < 32, Letter.octets
      (.unit (.ofNat 0) (.ofNat 0) (.ofNat (n / 16)) (.ofNat n)) =
        encoded ['\\', 'u', '0', '0', hexDigit (n / 16), hexDigit (n % 16)] := by
    decide +kernel
  unfold Letter.printed escaped
  split_ifs with quote backslash backspace tab lineFeed formFeed carriageReturn control
  · rfl
  · rfl
  · rfl
  · rfl
  · rfl
  · rfl
  · rfl
  · exact controls c.toNat control
  · exact (List.append_nil _).symm

-- A letter in front says the character that it was printed for.
theorem chars?_printed_cons (c : Char) (tail : Literal) :
    Literal.chars? (Letter.printed c :: tail) = tail.chars?.map (c :: ·) := by
  unfold Letter.printed
  split_ifs with quote backslash backspace tab lineFeed formFeed carriageReturn control
  · rw [quote]
    rfl
  · rw [backslash]
    rfl
  · rw [eq_ofNat_of_toNat_eq backspace]
    rfl
  · rw [eq_ofNat_of_toNat_eq tab]
    rfl
  · rw [eq_ofNat_of_toNat_eq lineFeed]
    rfl
  · rw [eq_ofNat_of_toNat_eq formFeed]
    rfl
  · rw [eq_ofNat_of_toNat_eq carriageReturn]
    rfl
  · exact chars?_small (Nat.lt_trans control (by decide)) tail
  · rw [Literal.chars?]

theorem Literal.octets_printed (s : String) :
    (Literal.printed s).octets = encoded (s.toList.flatMap escaped) := by
  rw [Literal.printed, Literal.octets, encoded, List.flatMap_map, List.flatMap_assoc]
  exact List.flatMap_congr fun c _ => Letter.octets_printed c

/-- A text that is printed says itself. -/
theorem Literal.text?_printed (s : String) : (Literal.printed s).text? = some s := by
  have chars : ∀ cs : List Char, Literal.chars? (cs.map Letter.printed) = some cs := by
    intro cs
    induction cs with
    | nil => rfl
    | cons c cs ih => rw [List.map_cons, chars?_printed_cons, ih, Option.map_some]
  rw [Literal.text?, Literal.printed, chars, Option.map_some, String.ofList_toList]

/-! ## Values -/

/-- What is said, as a value. Of a list it matters only that it is one. -/
def Sense.toJson : Sense → Json
  | .null => .null
  | .flag b => .bool b
  | .text s => .text s
  | .other => .list []

/-- What is said, as it is printed. -/
def Written.printed : Sense → Written
  | .null => .null
  | .flag b => .bool b
  | .text s => .text (Literal.printed s)
  | .other => .list (.close [])

theorem Written.octets_printed (sense : Sense) :
    (Written.printed sense).octets = encoded sense.toJson.chars := by
  cases sense with
  | null => rfl
  | flag b => cases b <;> rfl
  | text s =>
    have quoted := encoded_textChars s []
    rw [List.append_nil] at quoted
    rw [Written.printed, Written.octets, Literal.octets_printed]
    exact quoted.symm
  | other => rfl

theorem Written.sense_printed (sense : Sense) : (Written.printed sense).sense = sense := by
  cases sense with
  | null => rfl
  | flag b => rfl
  | text s =>
    rw [Written.printed, Written.sense, Literal.text?_printed]
    rfl
  | other => rfl

/-! ## Objects -/

/-- What is said under a name, as a member. -/
def Sense.toMember (field : String × Sense) : String × Json :=
  (field.1, field.2.toJson)

/-- The inside of an object as it is printed. -/
def Members.printed : List (String × Sense) → Members
  | [] => .close []
  | (name, sense) :: rest =>
    .member [] [] (Literal.printed name) [] [] (Written.printed sense) (Members.printed rest)

/-- Members that are printed say what they were made of. -/
theorem Members.fields?_printed (fields : List (String × Sense)) :
    (Members.printed fields).fields? = some fields := by
  induction fields with
  | nil => rfl
  | cons field rest ih =>
    rcases field with ⟨name, sense⟩
    simp only [Members.printed, Members.fields?, Literal.text?_printed, ih, Written.sense_printed,
      Option.bind_eq_bind, Option.bind_some]
    rfl

theorem Members.octets_printed_cons (field : String × Sense) (rest : List (String × Sense))
    (first : Bool) :
    (Members.printed (field :: rest)).octets first =
      comma first ++
        0x22 :: behindQuote (Sense.toMember field) ((Members.printed rest).octets false) := by
  rcases field with ⟨name, sense⟩
  simp only [Members.printed, Members.octets, Literal.octets_printed, Written.octets_printed]
  rfl

-- The members that follow another one are printed with a comma in front of each.
theorem Members.octets_printed (fields : List (String × Sense)) :
    (Members.printed fields).octets false =
      encoded (following (fields.map Sense.toMember)) ++ [0x7D] := by
  induction fields with
  | nil => rfl
  | cons field rest ih =>
    rw [Members.octets_printed_cons, ih, List.map_cons, encoded_following_cons]
    rfl

/-- What is printed of an object is a text of the grammar, with no blanks in it. -/
theorem alone_printed (fields : List (String × Sense)) :
    (Written.object (Members.printed fields)).alone [] [] =
      octets (Json.object (fields.map Sense.toMember)).compact := by
  have object := encoded_object (fields.map Sense.toMember) []
  rw [List.append_nil] at object
  have bare : ∀ v : Written, v.alone [] [] = v.octets := fun v => List.append_nil v.octets
  rw [compact, Text.octets_ofList, object, bare, Written.octets]
  cases fields with
  | nil => rfl
  | cons field rest =>
    rw [Members.octets_printed_cons, Members.octets_printed, List.map_cons,
      encoded_memberChars_cons]
    rfl

end Json

open Json (Sense)

/-- What the members of a rule say. -/
def Rule.said (rule : Rule) : List (String × Sense) :=
  [("id", .text rule.id.text), ("name", .text rule.fields.name),
    ("description", (rule.fields.description.map Sense.text).getD .null),
    ("condition", .text rule.fields.condition), ("action", .text rule.fields.action),
    ("is_active", .flag rule.fields.isActive), ("created_at", .text rule.createdAt.text),
    ("updated_at", .text rule.updatedAt.text)]

theorem Rule.members_eq_said (rule : Rule) : rule.members = rule.said.map Sense.toMember := by
  rcases rule with ⟨id, ⟨name, description, condition, action, isActive⟩, createdAt, updatedAt⟩
  cases description <;> rfl

namespace Record

-- Every field of a rule is said once, and what else is said has no name of a draft.
theorem proposes_said (rule : Rule) : Proposes rule.said ⟨rule.fields⟩ where
  name := rfl
  condition := rfl
  action := rfl
  description := by
    rcases rule with ⟨id, ⟨name, description, condition, action, isActive⟩, createdAt, updatedAt⟩
    cases description with
    | none => exact .inr rfl
    | some s => rfl
  isActive := .inl rfl

/-- The text of a rule is taken for the draft of its fields. -/
theorem parseRecord_rule_as_draft (rule : Rule) :
    parseRecord Draft.shape (Text.octets rule.toJson.compact) = .ok ⟨rule.fields⟩ := by
  rw [Rule.toJson, Rule.members_eq_said, ← Json.alone_printed, parseRecord_object_iff]
  exact ⟨rule.said, Json.Members.fields?_printed rule.said, proposes_said rule⟩

end Record
end Rulebook

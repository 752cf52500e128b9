import Rulebook.Proofs.Instant.RoundTrip
import Rulebook.Proofs.Json.Members
import Rulebook.Record.Printer
import Rulebook.Record.Reader

/-!
# Records There and Back

A record that has been written is read as itself, whatever stands behind it. The
reader gathers members one by one and puts each at its key, so the induction is
on the list of the entries that are still to be read: a member in front of them
costs the reader one round, and puts one entry. That the entries which have been
gathered make up the value again is all that is left to say of each kind of
record.

## Main definitions

* `Kind.toJson`: An entry as a value.
* `Member`: A key with an entry for it.
* `Gathered.putAll`: Puts many entries, each at its key.
* `Rule.entries`: The entries of a rule.

## Theorems

* `readEntry_toJson`: An entry is read as itself.
* `readMembers_written`: Members that have been written are gathered.
* `readRecord_written`: So a record is read whose entries make it up.
* `parseRecord_of_readRecord`: A text that is read to its end is one record.
* `parseRecord_rule`: The text of a rule is read as the rule.
-/

namespace Rulebook
namespace Record

open Text (Octets encoded)
open Json (skipBlanks)

/-- An entry as a value. -/
def Kind.toJson : (kind : Kind) → kind.Entry → Json
  | .text, s => .text s
  | .textOrNull, some s => .text s
  | .textOrNull, none => .null
  | .flag, b => .bool b
  | .time, t => .text t.text

/-- A key with an entry for it. -/
abbrev Member := Σ key : Key, key.kind.Entry

/-- A member as it is written. -/
def Member.written (m : Member) : String × Json :=
  (m.1.written, m.1.kind.toJson m.2)

/-- Puts many entries, each at its key. -/
def Gathered.putAll (g : Gathered) : List Member → Gathered
  | [] => g
  | m :: rest => (g.put m.1 m.2).putAll rest

/-! ## Entries -/

theorem wantTextOrNull_textChars (wanted s : String) (rest : Octets) :
    Json.wantTextOrNull wanted (encoded (Json.textChars s) ++ rest) = .ok (some s, rest) := by
  have quote : ∀ bs, Json.wantTextOrNull wanted (0x22 :: bs) =
      (Json.wantText wanted (0x22 :: bs)).map fun read => (some read.1, read.2) := fun _ => rfl
  rw [Json.encoded_textChars, quote, ← Json.encoded_textChars, Json.wantText_textChars]
  rfl

theorem wantTextOrNull_null (wanted : String) (rest : Octets) :
    Json.wantTextOrNull wanted (encoded ['n', 'u', 'l', 'l'] ++ rest) = .ok (none, rest) := by
  have word : Json.wantTextOrNull wanted (encoded ['n', 'u', 'l', 'l'] ++ rest) =
      (Json.readWord Json.restOfNull (Json.restOfNull ++ rest)).map fun rest => (none, rest) := rfl
  rw [word, Json.readWord_append]
  rfl

theorem wantBool_true (wanted : String) (rest : Octets) :
    Json.wantBool wanted (encoded ['t', 'r', 'u', 'e'] ++ rest) = .ok (true, rest) := by
  have word : Json.wantBool wanted (encoded ['t', 'r', 'u', 'e'] ++ rest) =
      (Json.readWord Json.restOfTrue (Json.restOfTrue ++ rest)).map fun rest => (true, rest) := rfl
  rw [word, Json.readWord_append]
  rfl

theorem wantBool_false (wanted : String) (rest : Octets) :
    Json.wantBool wanted (encoded ['f', 'a', 'l', 's', 'e'] ++ rest) = .ok (false, rest) := by
  have word : Json.wantBool wanted (encoded ['f', 'a', 'l', 's', 'e'] ++ rest) =
      (Json.readWord Json.restOfFalse (Json.restOfFalse ++ rest)).map fun rest => (false, rest) :=
    rfl
  rw [word, Json.readWord_append]
  rfl

/-- An entry is read as itself. -/
theorem readEntry_toJson (kind : Kind) (entry : kind.Entry) (rest : Octets) :
    readEntry kind (encoded (kind.toJson entry).chars ++ rest) = .ok (entry, rest) := by
  cases kind with
  | text => exact Json.wantText_textChars Kind.text.wanted entry rest
  | textOrNull =>
      cases entry with
      | some s => exact wantTextOrNull_textChars Kind.textOrNull.wanted s rest
      | none => exact wantTextOrNull_null Kind.textOrNull.wanted rest
  | flag =>
      cases entry with
      | true => exact wantBool_true Kind.flag.wanted rest
      | false => exact wantBool_false Kind.flag.wanted rest
  | time =>
      simp only [Kind.toJson, Json.chars, readEntry, Json.wantText_textChars, bind, Except.bind,
        Instant.read_text]

/-! ## Members -/

/-- The members that follow another one, each with a comma in front of it. -/
def trailing : List Member → List Char
  | [] => []
  | m :: rest => ',' :: Json.memberChars ((m :: rest).map Member.written)

-- They are the members that follow, whatever their keys are.
theorem trailing_eq_following (entries : List Member) :
    trailing entries = Json.following (entries.map Member.written) := by
  cases entries <;> rfl

/-- The octets of a member from behind its opening quote on. -/
def afterQuote (m : Member) (bs : Octets) : Octets :=
  encoded (m.1.written.toList.flatMap Json.escaped) ++
    0x22 :: 0x3A :: (encoded (m.1.kind.toJson m.2).chars ++ bs)

theorem encoded_members_cons (m : Member) (rest : List Member) (bs : Octets) :
    encoded (Json.memberChars ((m :: rest).map Member.written)) ++ bs =
      0x22 :: afterQuote m (encoded (trailing rest) ++ bs) := by
  rw [trailing_eq_following, List.map_cons, Json.encoded_memberChars_cons]
  rfl

-- Keys that have no entry yet have none when another key gets one.
theorem put_fresh {g : Gathered} {key : Key} {keys : List Key} (other : key ∉ keys)
    (fresh : ∀ k ∈ keys, g k = none) (entry : key.kind.Entry) :
    ∀ k ∈ keys, g.put key entry k = none := by
  intro k hk
  have differs : key ≠ k := fun same => other (same ▸ hk)
  rw [Gathered.put_of_ne differs]
  exact fresh k hk

-- A member that comes next costs the reader one round.
theorem readMembers_member {α : Type} {shape : Shape α} (rounds : Nat) {first : Bool}
    {g : Gathered} {m : Member} {bs rest : Octets}
    (next : nextMember first bs = .ok (some (afterQuote m rest)))
    (known : shape.column? m.1.written = some m.1) (fresh : g m.1 = none) :
    readMembers shape (rounds + 1) first g bs =
      readMembers shape rounds false (g.put m.1 m.2) rest := by
  have colon : ∀ bs, readColon (0x3A :: bs) = .ok bs := fun _ => rfl
  simp only [readMembers, next, placed, afterQuote, Json.readText_written, known, fresh, colon,
    readEntry_toJson, within, bind, Except.bind, Option.isSome_none, Bool.false_eq_true, if_false]

-- Members that have been written are gathered, up to the closing brace.
theorem readMembers_trailing {α : Type} {shape : Shape α} (rest : Octets) :
    ∀ (entries : List Member) (rounds : Nat) (g : Gathered), entries.length < rounds →
      (∀ m ∈ entries, shape.column? m.1.written = some m.1) →
      (∀ key ∈ entries.map (·.1), g key = none) → (entries.map (·.1)).Nodup →
      readMembers shape rounds false g (encoded (trailing entries) ++ 0x7D :: rest) =
        .ok (g.putAll entries, 0x7D :: rest)
  | [], rounds + 1, g, _, _, _, _ => rfl
  | m :: entries, rounds + 1, g, enough, known, fresh, distinct => by
      have comma : ∀ bs, nextMember false (0x2C :: 0x22 :: bs) = .ok (some bs) := fun _ => rfl
      have start : encoded (trailing (m :: entries)) ++ 0x7D :: rest =
          0x2C :: 0x22 :: afterQuote m (encoded (trailing entries) ++ 0x7D :: rest) := by
        rw [← encoded_members_cons]
        rfl
      rw [List.map_cons, List.nodup_cons] at distinct
      rw [List.map_cons, List.forall_mem_cons] at fresh
      rw [start, readMembers_member rounds (comma _) (known m (List.mem_cons_self ..)) fresh.1]
      exact readMembers_trailing rest entries rounds (g.put m.1 m.2) (Nat.lt_of_succ_lt_succ enough)
        (fun n hn => known n (List.mem_cons_of_mem _ hn)) (put_fresh distinct.1 fresh.2 m.2)
        distinct.2

/-- Members that have been written are gathered, from behind the opening brace
    on. -/
theorem readMembers_written {α : Type} {shape : Shape α} {entries : List Member} (rest : Octets)
    (known : ∀ m ∈ entries, shape.column? m.1.written = some m.1)
    (distinct : (entries.map (·.1)).Nodup) :
    let bs := encoded (Json.memberChars (entries.map Member.written)) ++ 0x7D :: rest
    readMembers shape (bs.length + 1) true .empty bs =
      .ok (Gathered.empty.putAll entries, 0x7D :: rest) := by
  intro bs
  cases entries with
  | nil => rfl
  | cons m entries =>
      have quote : ∀ bs, nextMember true (0x22 :: bs) = .ok (some bs) := fun _ => rfl
      have start : bs = 0x22 :: afterQuote m (encoded (trailing entries) ++ 0x7D :: rest) :=
        encoded_members_cons m entries (0x7D :: rest)
      have enough : entries.length < bs.length := by
        have := Json.length_le_following (entries.map Member.written)
        rw [List.length_map, ← trailing_eq_following] at this
        rw [start, afterQuote]
        simp only [List.length_cons, List.length_append]
        omega
      rw [List.map_cons, List.nodup_cons] at distinct
      have fresh := put_fresh (g := .empty) distinct.1 (fun _ _ => rfl) m.2
      have round := readMembers_member bs.length (g := .empty)
        (quote (afterQuote m (encoded (trailing entries) ++ 0x7D :: rest)))
        (known m (List.mem_cons_self ..)) rfl
      rw [← start] at round
      rw [round]
      exact readMembers_trailing rest entries bs.length _ enough
        (fun n hn => known n (List.mem_cons_of_mem _ hn)) fresh distinct.2

/-! ## Records -/

theorem column?_written {α : Type} {shape : Shape α} {key : Key} (h : key ∈ shape.columns) :
    shape.column? key.written = some key := by
  unfold Shape.column?
  cases found : shape.columns.find? (·.written = key.written) with
  | none =>
      rw [List.find?_eq_none] at found
      exact absurd (decide_eq_true rfl) (found key h)
  | some other =>
      have same := List.find?_some (p := fun k : Key => decide (k.written = key.written)) found
      rw [Key.written_injective (of_decide_eq_true same)]

/-- A record is read as itself if it is written with entries for its columns
    that make it up. -/
theorem readRecord_written {α : Type} {shape : Shape α} {entries : List Member} {value : α}
    (columns : entries.map (·.1) = shape.columns) (distinct : shape.columns.Nodup)
    (build : shape.build (Gathered.empty.putAll entries) = .ok value) (rest : Octets) :
    readRecord shape (encoded (Json.object (entries.map Member.written)).chars ++ rest) =
      .ok (value, rest) := by
  have known : ∀ m ∈ entries, shape.column? m.1.written = some m.1 := by
    intro m hm
    exact column?_written (columns ▸ List.mem_map_of_mem hm)
  have object : ∀ bs, readRecord shape (0x7B :: bs) =
      leaving closeObject leaveObject
        (readMembers shape (bs.length + 1) true .empty bs >>= finish shape) := fun _ => rfl
  rw [Json.encoded_object, object, readMembers_written rest known (columns ▸ distinct)]
  simp only [bind, Except.bind, finish, build, leaving]
  rfl

/-- A text that is read to its end is one record. -/
theorem parseRecord_of_readRecord {α : Type} {shape : Shape α} {bs : Octets} {value : α}
    (read : ∀ rest, readRecord shape (bs ++ rest) = .ok (value, rest)) :
    parseRecord shape bs = .ok value := by
  have whole := read []
  rw [List.append_nil] at whole
  simp only [parseRecord, whole, bind, Except.bind, Json.skipBlanks, List.dropWhile_nil]

end Record

open Record (Member readRecord parseRecord)

/-- The entries of a rule. -/
def Rule.entries (rule : Rule) : List Member :=
  [⟨.id, rule.id.text⟩, ⟨.name, rule.fields.name⟩, ⟨.description, rule.fields.description⟩,
    ⟨.condition, rule.fields.condition⟩, ⟨.action, rule.fields.action⟩,
    ⟨.isActive, rule.fields.isActive⟩, ⟨.createdAt, rule.createdAt⟩, ⟨.updatedAt, rule.updatedAt⟩]

theorem Rule.members_eq (rule : Rule) : rule.members = rule.entries.map Member.written := by
  rcases rule with ⟨id, ⟨name, description, condition, action, isActive⟩, createdAt, updatedAt⟩
  cases description with
  | none => rfl
  | some s => rfl

-- A rule is read as itself, whatever stands behind it.
theorem Record.readRecord_rule (rule : Rule) (rest : Text.Octets) :
    readRecord Rule.shape (Text.octets rule.toJson.compact ++ rest) = .ok (rule, rest) := by
  rw [Json.compact, Text.octets_ofList, Rule.toJson, Rule.members_eq]
  exact readRecord_written rfl (by decide) rfl rest

/-- The text of a rule is read as the rule. -/
theorem Record.parseRecord_rule (rule : Rule) :
    parseRecord Rule.shape (Text.octets rule.toJson.compact) = .ok rule :=
  parseRecord_of_readRecord (readRecord_rule rule)

end Rulebook

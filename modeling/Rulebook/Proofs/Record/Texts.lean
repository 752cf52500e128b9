import Rulebook.Proofs.Json.Members
import Rulebook.Record.Reader

/-!
# Objects of Texts

An envelope is an object whose members are texts. To say what such an envelope tells a
caller is to read it as the caller would: as one object, with every name and every value
taken as it comes. Nothing is known of the names in advance, nothing is passed over and
nothing is left out, so what is read is all that the object holds.

However many members an object of texts has, and whatever signs stand in them, its
compact text is read as those members. The induction is on the members; a member in front
of the others costs the reader one round, and is put in front of what the rest is read
as.

## Main definitions

* `readTexts`: Reads the members of an object of texts.
* `parseTexts`: Reads a text that is one such object.
* `textMember`: A member that holds a text.

## Theorems

* `readTexts_member`: A member costs the reader one round.
* `readTexts_written`: Members that have been written are read.
* `parseTexts_compact`: An object of texts that has been written is read as itself.
-/

namespace Rulebook
namespace Record

open Text (Octets encoded)
open Json (Fault Read faultAt faultOver skipBlanks following behindQuote)

/-- Reads the members of an object of texts, up to its closing brace. Every round reads a
    member. -/
def readTexts : (rounds : Nat) → (first : Bool) → Read (List (String × String))
  | 0, _, bs => faultAt .endInObject bs
  | rounds + 1, first, bs => do
    match ← nextMember first bs with
    | none => .ok ([], bs)
    | some bs =>
      let (name, bs) ← Json.readText bs
      let bs ← readColon bs
      let (value, bs) ← Json.wantText Kind.text.wanted bs
      let (others, bs) ← readTexts rounds false bs
      .ok ((name, value) :: others, bs)

/-- Reads a text that is one object of texts, blanks at its ends aside. -/
def parseTexts (bs : Octets) : Except Fault (List (String × String)) :=
  match skipBlanks bs with
  | 0x7B :: bs => do
    let (members, bs) ← readTexts (bs.length + 1) true bs
    let rest ← closeObject bs
    match skipBlanks rest with
    | [] => .ok members
    | rest => faultOver .trailingText rest
  | bs => Json.refuse "a map" bs

/-- A member that holds a text. -/
def textMember (member : String × String) : String × Json :=
  (member.1, .text member.2)

/-- A member that comes next costs the reader one round. -/
theorem readTexts_member {rounds : Nat} {first : Bool} {m : String × String} {bs rest left : Octets}
    {others : List (String × String)}
    (next : nextMember first bs = .ok (some (behindQuote (textMember m) rest)))
    (behind : readTexts rounds false rest = .ok (others, left)) :
    readTexts (rounds + 1) first bs = .ok (m :: others, left) := by
  have colon : ∀ bs, readColon (0x3A :: bs) = .ok bs := fun _ => rfl
  simp only [readTexts, next, behindQuote, textMember, Json.chars, Json.readText_written, colon,
    Json.wantText_textChars, behind, bind, Except.bind]

theorem readTexts_following (rest : Octets) :
    ∀ (members : List (String × String)) (rounds : Nat), members.length < rounds →
      readTexts rounds false (encoded (following (members.map textMember)) ++ 0x7D :: rest) =
        .ok (members, 0x7D :: rest)
  | [], rounds + 1, _ => rfl
  | m :: members, rounds + 1, enough => by
    have comma : ∀ bs, nextMember false (0x2C :: 0x22 :: bs) = .ok (some bs) := fun _ => rfl
    rw [List.map_cons, Json.encoded_following_cons]
    exact readTexts_member (comma _)
      (readTexts_following rest members rounds (Nat.lt_of_succ_lt_succ enough))

/-- Members that have been written are read, from behind the opening brace on. -/
theorem readTexts_written (members : List (String × String)) (rest : Octets) :
    let bs := encoded (Json.memberChars (members.map textMember)) ++ 0x7D :: rest
    readTexts (bs.length + 1) true bs = .ok (members, 0x7D :: rest) := by
  intro bs
  cases members with
  | nil => rfl
  | cons m members =>
    have quote : ∀ bs, nextMember true (0x22 :: bs) = .ok (some bs) := fun _ => rfl
    have start : bs = 0x22 :: behindQuote (textMember m)
        (encoded (following (members.map textMember)) ++ 0x7D :: rest) :=
      Json.encoded_memberChars_cons (textMember m) (members.map textMember) (0x7D :: rest)
    have enough : members.length < bs.length := by
      have := Json.length_le_following (members.map textMember)
      rw [List.length_map] at this
      rw [start, behindQuote]
      simp only [List.length_cons, List.length_append]
      omega
    have next := quote (behindQuote (textMember m)
      (encoded (following (members.map textMember)) ++ 0x7D :: rest))
    rw [← start] at next
    exact readTexts_member next (readTexts_following rest members bs.length enough)

/-- An object of texts that has been written is read as itself. -/
theorem parseTexts_compact (members : List (String × String)) :
    parseTexts (Text.octets (Json.object (members.map textMember)).compact) = .ok members := by
  have opened : ∀ bs, parseTexts (0x7B :: bs) = (do
      let (members, bs) ← readTexts (bs.length + 1) true bs
      let rest ← closeObject bs
      match skipBlanks rest with
      | [] => .ok members
      | rest => faultOver .trailingText rest) := fun _ => rfl
  have read := readTexts_written members []
  simp only at read
  rw [Json.compact, Text.octets_ofList,
    ← List.append_nil (encoded (Json.object (members.map textMember)).chars),
    Json.encoded_object, opened, read]
  rfl

end Record
end Rulebook

import Rulebook.Proofs.Json.Pass
import Rulebook.Proofs.Record.Front

/-!
# What a Record Reader Takes

A reader of records sees a text, and decides as it goes along. What it decides hangs on
what the text says, and not on how it is written: every reader here gives, of any way
of writing a value, what can be computed from the sense of the value alone. Members with
unknown names drop out at once. The others are gathered one by one, and refused where
one of them says nothing that its kind may hold, or comes a second time.

## Main definitions

* `Kind.entry?`: The entry of a kind that a value says.
* `gatherFields?`, `gatherItems?`: What is gathered of the inside of brackets.

## Theorems

* `readEntry_octets`: A value is read as the entry that it says.
* `readMembers_octets`, `readItems_octets`: Members and items are gathered.
* `parseRecord_object`, `parseRecord_list`: A text is read as the record that it says.
-/

namespace Rulebook
namespace Record

open Json
open Text (Octets)

/-! ## Outcomes -/

section

variable {E α β : Type}

theorem toOption_eq_some_iff {read : Except E α} {a : α} :
    read.toOption = some a ↔ read = .ok a := by
  cases read with
  | error fault => exact iff_of_false (fun h => nomatch h) fun h => nomatch h
  | ok b => exact ⟨fun h => congrArg Except.ok (Option.some.inj h), congrArg Except.toOption⟩

theorem toOption_map (f : α → β) (read : Except E α) :
    (read.map f).toOption = read.toOption.map f := by
  cases read <;> rfl

theorem toOption_bind (read : Except E α) (next : α → Except E β) :
    (read >>= next).toOption = read.toOption.bind fun a => (next a).toOption := by
  cases read <;> rfl

theorem toOption_placed (read : Except Fault α) : (placed read).toOption = read.toOption := by
  cases read <;> rfl

theorem toOption_within (member : String) (read : Except Fault α) :
    (within member read).toOption = read.toOption := by
  cases read <;> rfl

theorem toOption_refuse (wanted : String) (bs : Octets) :
    (refuse wanted bs : Except Fault α).toOption = none :=
  toOption_eq_none fun _ => refuse_ne_ok

end

/-! ## Entries -/

/-- The entry of a kind that a value says. -/
def Kind.entry? : (kind : Kind) → Sense → Option kind.Entry
  | .text, .text s => some s
  | .textOrNull, .null => some none
  | .textOrNull, .text s => some (some s)
  | .flag, .flag b => some b
  | .time, .text s => (Instant.read s).toOption
  | _, _ => none

theorem entry?_text (s : Literal) : Kind.text.entry? (Written.text s).sense = s.text? := by
  rw [Written.sense]
  cases s.text? <;> rfl

-- Where null may stand, any text may stand as well.
theorem entry?_textOrNull {sense : Sense} (h : sense ≠ .null) :
    Kind.textOrNull.entry? sense = (Kind.text.entry? sense).map some := by
  cases sense with
  | null => exact absurd rfl h
  | flag b | text s | other => rfl

-- A number is not taken for a text or a word.
theorem first_number_notMem (n : Number) : n.first ∉ [0x22, 0x66, 0x6E, 0x74] := by
  have other := (first_number n.first_spec).2
  simp only [List.mem_cons, List.not_mem_nil, or_false, not_or] at other ⊢
  exact ⟨other.1, other.2.2.2.2.1, other.2.2.2.2.2.1, other.2.2.2.2.2.2.1⟩

theorem eq_null_of_first {v : Written} (h : v.first = 0x6E) : v = .null := by
  cases v with
  | null => rfl
  | bool b => cases b <;> exact absurd h (by decide)
  | number n =>
    rw [Written.first] at h
    exact absurd (by rw [h]; decide) (first_number_notMem n)
  | text s | list items | object members =>
    rw [Written.first] at h
    exact absurd h (by decide)

theorem sense_ne_null {v : Written} (h : v.first ≠ 0x6E) : v.sense ≠ .null := by
  cases v with
  | null => exact absurd rfl h
  | text s =>
    rw [Written.sense]
    cases s.text? <;> exact fun same => Sense.noConfusion same
  | bool b | number n | list items | object members => exact fun same => Sense.noConfusion same

section

variable (gap : Gap) (rest : Octets)

-- What starts with no quote is refused where a text is wanted.
theorem wantText_other (wanted : String) {v : Written} (noText : v.first ≠ 0x22) :
    (wantText wanted (gap.octets ++ (v.octets ++ rest))).toOption = none := by
  rcases v.octets_eq_first with ⟨behind, octets⟩
  rw [wantText, skipBlanks_gap, skipBlanks_octets, octets, List.cons_append]
  split
  · next same => exact absurd (List.cons.inj same).1 noText
  · exact toOption_refuse ..

theorem wantText_octets (wanted : String) (v : Written) :
    (wantText wanted (gap.octets ++ (v.octets ++ rest))).toOption =
      (Kind.text.entry? v.sense).map fun s => (s, rest) := by
  cases v with
  | text s =>
    rw [wantText, skipBlanks_gap, skipBlanks_octets, entry?_text, ← readText_octets s rest,
      Written.octets, List.cons_append, List.append_assoc]
    rfl
  | null | list items | object members =>
    exact wantText_other gap rest wanted (by rw [Written.first]; decide)
  | bool b => exact wantText_other gap rest wanted (by cases b <;> decide)
  | number n =>
    have other := first_number_notMem n
    simp only [List.mem_cons, List.not_mem_nil, or_false, not_or] at other
    exact wantText_other gap rest wanted other.1

-- What is not null has to be a text.
theorem wantTextOrNull_other (wanted : String) {v : Written} (noNull : v.first ≠ 0x6E) :
    wantTextOrNull wanted (gap.octets ++ (v.octets ++ rest)) =
      (wantText wanted (v.octets ++ rest)).map fun (s, rest) => (some s, rest) := by
  rcases v.octets_eq_first with ⟨behind, octets⟩
  rw [wantTextOrNull, skipBlanks_gap, skipBlanks_octets]
  split
  · next same =>
    rw [octets, List.cons_append] at same
    exact absurd (List.cons.inj same).1 noNull
  · rfl

theorem wantTextOrNull_octets (wanted : String) (v : Written) :
    (wantTextOrNull wanted (gap.octets ++ (v.octets ++ rest))).toOption =
      (Kind.textOrNull.entry? v.sense).map fun s? => (s?, rest) := by
  by_cases null : v.first = 0x6E
  · rw [eq_null_of_first null, wantTextOrNull, skipBlanks_gap, skipBlanks_octets]
    rfl
  · have text := wantText_octets [] rest wanted v
    rw [wantTextOrNull_other gap rest wanted null, toOption_map,
      entry?_textOrNull (sense_ne_null null), Option.map_map]
    refine (congrArg (Option.map _) text).trans ?_
    rw [Option.map_map]
    rfl

-- What starts like neither of the two words is refused where a flag is wanted.
theorem wantBool_other (wanted : String) {v : Written} (noTrue : v.first ≠ 0x74)
    (noFalse : v.first ≠ 0x66) :
    (wantBool wanted (gap.octets ++ (v.octets ++ rest))).toOption = none := by
  rcases v.octets_eq_first with ⟨behind, octets⟩
  rw [wantBool, skipBlanks_gap, skipBlanks_octets, octets, List.cons_append]
  split
  · next same => exact absurd (List.cons.inj same).1 noTrue
  · next same => exact absurd (List.cons.inj same).1 noFalse
  · exact toOption_refuse ..

theorem wantBool_octets (wanted : String) (v : Written) :
    (wantBool wanted (gap.octets ++ (v.octets ++ rest))).toOption =
      (Kind.flag.entry? v.sense).map fun b => (b, rest) := by
  cases v with
  | bool b =>
    rw [wantBool, skipBlanks_gap, skipBlanks_octets]
    cases b <;> rfl
  | text s =>
    have none : Kind.flag.entry? (Written.text s).sense = none := by
      rw [Written.sense]
      cases s.text? <;> rfl
    rw [none]
    exact wantBool_other gap rest wanted (by rw [Written.first]; decide)
      (by rw [Written.first]; decide)
  | null | list items | object members =>
    exact wantBool_other gap rest wanted (by rw [Written.first]; decide)
      (by rw [Written.first]; decide)
  | number n =>
    have other := first_number_notMem n
    simp only [List.mem_cons, List.not_mem_nil, or_false, not_or] at other
    exact wantBool_other gap rest wanted other.2.2.2 other.2.1

/-- A value is read as the entry that it says, if it says one. -/
theorem readEntry_octets (kind : Kind) (v : Written) :
    (readEntry kind (gap.octets ++ (v.octets ++ rest))).toOption =
      (kind.entry? v.sense).map fun entry => (entry, rest) := by
  cases kind with
  | text => exact wantText_octets gap rest _ v
  | textOrNull => exact wantTextOrNull_octets gap rest _ v
  | flag => exact wantBool_octets gap rest _ v
  | time =>
    have text := wantText_octets gap rest Kind.time.wanted v
    rw [readEntry, toOption_bind, text]
    cases v.sense with
    | text s =>
      simp only [Kind.entry?, Option.map_some, Option.bind_some]
      cases Instant.read s <;> rfl
    | null | flag b | other => rfl

end

/-! ## Members -/

/-- What has been gathered, with one more member. -/
def gatherField? {α : Type} (shape : Shape α) (g : Gathered) (field : String × Sense) :
    Option Gathered :=
  match shape.column? field.1 with
  | none => some g
  | some key =>
    if (g key).isSome then none else (key.kind.entry? field.2).map (g.put key)

/-- What is gathered of the members of an object. -/
def gatherFields? {α : Type} (shape : Shape α) (g : Gathered) (fields : List (String × Sense)) :
    Option Gathered :=
  fields.foldlM (gatherField? shape) g

theorem gatherFields?_cons {α : Type} (shape : Shape α) (g : Gathered) (field : String × Sense)
    (fields : List (String × Sense)) :
    gatherFields? shape g (field :: fields) =
      (gatherField? shape g field).bind fun g => gatherFields? shape g fields :=
  rfl

theorem readColon_octets (colon : Gap) (bs : Octets) :
    readColon (colon.octets ++ 0x3A :: bs) = .ok bs := by
  rw [readColon, skipBlanks_gap, skipBlanks_of_not_blank rfl]
  rfl

/-- A member is gathered by its name and by what its value says. -/
theorem readMember_octets {α : Type} (shape : Shape α) (g : Gathered) (name : String)
    (colon after : Gap) (v : Written) {rest : Octets} (stops : Stops rest) :
    (readMember shape g name
        (colon.octets ++ 0x3A :: (after.octets ++ (v.octets ++ rest)))).toOption =
      (gatherField? shape g (name, v.sense)).map fun g => (g, rest) := by
  rw [readMember, gatherField?]
  cases shape.column? name with
  | none =>
    simp only [readColon_octets, skipValue_octets after v stops, placed, within, bind, Except.bind]
    rfl
  | some key =>
    simp only
    by_cases repeated : (g key).isSome = true
    · rw [if_pos repeated, if_pos repeated]
      rfl
    · have entry := readEntry_octets after rest key.kind v
      rw [if_neg repeated, if_neg repeated, readColon_octets]
      change (placed (within name (readEntry key.kind _)) >>= _).toOption = _
      rw [toOption_bind, toOption_placed, toOption_within, entry]
      cases key.kind.entry? v.sense <;> rfl

theorem nextMember_comma {bs behind : Octets} (start : skipBlanks bs = 0x22 :: behind) :
    nextMember false (0x2C :: bs) = .ok (some behind) := by
  simp [nextMember, skipBlanks_of_not_blank (b := 0x2C) rfl, start]

-- Where a member comes next, it is found behind its opening quote.
theorem nextMember_octets (first : Bool) (gap before : Gap) (name : Literal) (colon after : Gap)
    (v : Written) (more : Members) (rest : Octets) :
    nextMember first ((Members.member gap before name colon after v more).octets first ++ rest) =
      .ok (some (memberOctets name colon after v (more.octets false ++ rest))) := by
  cases first with
  | true =>
    rw [nextMember_skipBlanks, Members.skipBlanks_first]
    rfl
  | false =>
    rw [Members.octets_comma, nextMember_skipBlanks, skipBlanks_gap,
      skipBlanks_of_not_blank rfl]
    refine nextMember_comma ?_
    rw [skipBlanks_gap, skipBlanks_of_not_blank rfl]

-- A round of the reader: a name, its member, and the members behind it.
theorem toOption_readMembers {α : Type} {shape : Shape α} {rounds : Nat} {first : Bool}
    {g : Gathered} {bs inside : Octets} (next : nextMember first bs = .ok (some inside)) :
    (readMembers shape (rounds + 1) first g bs).toOption =
      (readText inside).toOption.bind fun (name, left) =>
        (readMember shape g name left).toOption.bind fun (g, bs) =>
          (readMembers shape rounds false g bs).toOption := by
  cases text : readText inside with
  | error fault =>
    simp only [readMembers, next, placed, bind, Except.bind, text]
    rfl
  | ok made =>
    rw [readMembers_some next text, toOption_bind]
    rfl

/-- Members are gathered up to the closing brace. -/
theorem readMembers_octets {α : Type} (shape : Shape α) (rest : Octets) :
    (members : Members) → ∀ {rounds : Nat} (first : Bool) (g : Gathered),
      members.length < rounds →
      (readMembers shape rounds first g (members.octets first ++ rest)).toOption =
        (members.fields?.bind (gatherFields? shape g)).map fun g => (g, members.closing ++ rest)
  | .close gap, rounds + 1, first, g, _ => by
    have none : nextMember first ((Members.close gap).octets first ++ rest) = .ok none := by
      rw [Members.octets, List.append_assoc, nextMember_skipBlanks, skipBlanks_gap]
      rfl
    rw [readMembers_none none]
    rfl
  | .member gap before name colon after v more, rounds + 1, first, g, enough => by
    have behind := fun g =>
      readMembers_octets shape rest more false g (Nat.lt_of_succ_lt_succ enough)
    rw [toOption_readMembers (nextMember_octets ..), memberOctets, readText_octets, Members.fields?]
    cases name.text? with
    | none => rfl
    | some name =>
      simp only [Option.map_some, Option.bind_some,
        readMember_octets shape g name colon after v (more.stops rest), Option.bind_eq_bind]
      -- The reader puts the member in before it knows whether the others are well.
      cases field : gatherField? shape g (name, v.sense) with
      | none =>
        cases more.fields? with
        | none => rfl
        | some fields =>
          simp only [pure, Option.bind_some, gatherFields?_cons, field, Option.bind_none,
            Option.map_none]
      | some larger =>
        simp only [Option.map_some, Option.bind_some, behind larger, Members.closing]
        cases more.fields? with
        | none => rfl
        | some fields =>
          simp only [pure, Option.bind_some, gatherFields?_cons, field]

/-! ## Items -/

/-- What is gathered of the items of a list, column by column. -/
def gatherItems? {α : Type} (shape : Shape α) :
    List Key → Gathered → List Sense → Option Gathered
  | [], g, [] => some g
  | [], _, _ :: _ => none
  | key :: keys, g, [] => if shape.mayLack key then gatherItems? shape keys g [] else none
  | key :: keys, g, sense :: senses =>
    (key.kind.entry? sense).bind fun entry => gatherItems? shape keys (g.put key entry) senses

-- Where an item comes next, it is found from its first octet on.
theorem nextItem_octets (first : Bool) (gap before : Gap) (v : Written) (more : Items)
    (rest : Octets) :
    nextItem first ((Items.item gap before v more).octets first ++ rest) =
      .ok (some (v.octets ++ (more.octets false ++ rest))) := by
  rcases v.octets_eq_first with ⟨behind, octets⟩
  have opened : v.first ≠ 0x5D := fun same => v.first_visible.2 (by rw [same]; decide)
  have start : skipBlanks (v.octets ++ (more.octets false ++ rest)) =
      v.first :: (behind ++ (more.octets false ++ rest)) := by
    rw [skipBlanks_octets, octets, List.cons_append]
  rw [octets, List.cons_append]
  cases first with
  | true =>
    refine nextItem_first ?_ opened
    rw [Items.skipBlanks_first, octets, List.cons_append]
  | false =>
    rw [Items.octets_comma, nextItem_skipBlanks, skipBlanks_gap, skipBlanks_of_not_blank rfl]
    refine nextItem_comma ?_ opened
    rw [skipBlanks_gap, start]

-- A list that goes on is not left.
theorem closeList_item (first : Bool) (gap before : Gap) (v : Written) (more : Items)
    (rest : Octets) :
    (closeList ((Items.item gap before v more).octets first ++ rest)).toOption = none := by
  refine toOption_eq_none fun left closed => ?_
  have closing := closeList_eq_ok closed
  cases first with
  | true =>
    rcases v.octets_eq_first with ⟨behind, octets⟩
    rw [Items.skipBlanks_first, octets, List.cons_append] at closing
    exact v.first_visible.2 (by rw [(List.cons.inj closing).1]; decide)
  | false =>
    rw [Items.octets_comma, skipBlanks_gap, skipBlanks_of_not_blank rfl] at closing
    exact absurd (List.cons.inj closing).1 (by decide)

theorem closeList_close (gap : Gap) (first : Bool) (rest : Octets) :
    closeList ((Items.close gap).octets first ++ rest) = .ok rest := by
  rw [Items.octets, List.append_assoc, closeList, skipBlanks_gap, List.singleton_append,
    skipBlanks_of_not_blank rfl]
  rfl

/-- Items are gathered column by column, if the list closes behind them. -/
theorem readItems_octets {α : Type} (shape : Shape α) (rest : Octets) :
    (keys : List Key) → ∀ (index : Nat) (g : Gathered) (items : Items),
      ((readItems shape index keys g (items.octets (index = 0) ++ rest)).toOption.bind
          fun (g, left) => (closeList left).toOption.map fun rest => (g, rest)) =
        (gatherItems? shape keys g items.senses).map fun g => (g, rest)
  | [], index, g, .close gap => by
    rw [readItems]
    simp only [Except.toOption, Option.bind_some, closeList_close]
    rfl
  | [], index, g, .item gap before v more => by
    rw [readItems]
    change (closeList _).toOption.map _ = _
    rw [closeList_item]
    rfl
  | key :: keys, index, g, .close gap => by
    have behind := readItems_octets shape rest keys (index + 1) g (.close gap)
    have none : nextItem (index = 0) ((Items.close gap).octets (index = 0) ++ rest) = .ok none := by
      rw [Items.octets, List.append_assoc, nextItem_skipBlanks, skipBlanks_gap]
      rfl
    simp only [readItems, none, placed, bind, Except.bind, Items.senses, gatherItems?]
    by_cases lack : shape.mayLack key = true
    · rw [if_pos lack, if_pos lack]
      exact behind
    · rw [if_neg lack, if_neg lack]
      rfl
  | key :: keys, index, g, .item gap before v more => by
    have entry := readEntry_octets [] (more.octets false ++ rest) key.kind v
    have later : decide (index + 1 = 0) = false := decide_eq_false (Nat.succ_ne_zero index)
    simp only [readItems, nextItem_octets, placed, bind, Except.bind, Items.senses, gatherItems?]
    cases read : readEntry key.kind (v.octets ++ (more.octets false ++ rest)) with
    | error fault =>
      have none : key.kind.entry? v.sense = none := by
        refine Option.map_eq_none_iff.1 (entry.symm.trans ?_)
        exact congrArg Except.toOption read
      rw [none]
      rfl
    | ok made =>
      rcases Option.map_eq_some_iff.1 (entry.symm.trans (congrArg Except.toOption read)) with
        ⟨made, hmade, rfl⟩
      have behind := readItems_octets shape rest keys (index + 1) (g.put key made) more
      rw [later] at behind
      rw [hmade]
      exact behind

/-! ## Records -/

-- A record is left where its bracket closes, if what was gathered makes it up.
theorem toOption_leaving {α : Type} {shape : Shape α} {close : Octets → Except Fault Octets}
    {leave : Octets → Octets} (read : Except Stop (Gathered × Octets)) :
    (leaving close leave (read >>= finish shape)).toOption =
      (read.toOption.bind fun (g, left) => (close left).toOption.map fun rest => (g, rest)).bind
        fun (g, rest) => (shape.build g).toOption.map fun value => (value, rest) := by
  cases read with
  | error stop => cases stop <;> rfl
  | ok made =>
    rcases made with ⟨g, left⟩
    cases build : shape.build g <;> cases closed : close left <;>
      simp only [bind, Except.bind, finish, leaving, Except.toOption, Except.map, faultAt, build,
        closed, Option.bind_some, Option.bind_none, Option.map_some, Option.map_none]

-- Blanks behind a record are passed over.
theorem toOption_parseRecord {α : Type} {shape : Shape α} {bs : Octets} (trail : Gap)
    {record : Option α}
    (read : (readRecord shape bs).toOption = record.map fun value => (value, trail.octets)) :
    (parseRecord shape bs).toOption = record := by
  have blank : skipBlanks trail.octets = [] := by
    rw [← List.append_nil trail.octets, skipBlanks_gap]
    rfl
  rw [parseRecord, toOption_bind, read]
  cases record with
  | none => rfl
  | some value =>
    simp only [Option.map_some, Option.bind_some, blank]
    rfl

-- Every member takes a round, and is written with an octet at least.
theorem Members.length_le_octets :
    (members : Members) → (first : Bool) → members.length ≤ (members.octets first).length
  | .close _, _ => Nat.zero_le _
  | .member gap before name colon after v more, first => by
    have fewer := Members.length_le_octets more false
    simp only [Members.length, Members.octets, List.length_append, List.length_cons]
    omega

theorem closeObject_closing (rest : Octets) :
    (members : Members) → closeObject (members.closing ++ rest) = .ok rest
  | .close gap => by
    rw [Members.closing, List.append_assoc, closeObject, skipBlanks_gap, List.singleton_append,
      skipBlanks_of_not_blank rfl]
    rfl
  | .member _ _ _ _ _ _ more => closeObject_closing rest more

/-- The text of an object is read as the record that its members make up. -/
theorem parseRecord_object {α : Type} (shape : Shape α) (lead trail : Gap) (members : Members) :
    (parseRecord shape ((Written.object members).alone lead trail)).toOption =
      (members.fields?.bind (gatherFields? shape .empty)).bind fun g =>
        (shape.build g).toOption := by
  have start : skipBlanks ((Written.object members).alone lead trail) =
      0x7B :: (members.octets true ++ trail.octets) := by
    rw [Written.alone, skipBlanks_gap, skipBlanks_octets]
    rfl
  have enough : members.length < (members.octets true ++ trail.octets).length + 1 := by
    have fewer := Members.length_le_octets members true
    rw [List.length_append]
    omega
  refine toOption_parseRecord trail ?_
  rw [readRecord_object start, toOption_leaving,
    readMembers_octets shape trail.octets members true .empty enough]
  cases members.fields?.bind (gatherFields? shape .empty) with
  | none => rfl
  | some g =>
    simp only [Option.map_some, Option.bind_some, closeObject_closing]
    rfl

/-- The text of a list is read as the record that its items make up. -/
theorem parseRecord_list {α : Type} (shape : Shape α) (lead trail : Gap) (items : Items) :
    (parseRecord shape ((Written.list items).alone lead trail)).toOption =
      (gatherItems? shape shape.columns .empty items.senses).bind fun g =>
        (shape.build g).toOption := by
  have start : skipBlanks ((Written.list items).alone lead trail) =
      0x5B :: (items.octets true ++ trail.octets) := by
    rw [Written.alone, skipBlanks_gap, skipBlanks_octets]
    rfl
  have read := readItems_octets shape trail.octets shape.columns 0 .empty items
  refine toOption_parseRecord trail ?_
  rw [readRecord_list start, toOption_leaving]
  refine (congrArg (Option.bind · _) read).trans ?_
  cases gatherItems? shape shape.columns .empty items.senses with
  | none => rfl
  | some g => rfl

end Record
end Rulebook

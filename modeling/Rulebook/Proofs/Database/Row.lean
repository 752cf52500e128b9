import Mathlib.Data.List.Nodup
import Rulebook.Database.Row
import Rulebook.Proofs.Json.Front

/-!
# Rules There and Back

What a rule is bound to comes back as the rule. Texts come back as their octets
and those are read as the text; a time comes back as eight octets, and the count
they make up stands for the time it was made of, as long as the time is a whole
microsecond, is not inside a leap second and is counted in sixty-four bits.

A rule is bound by place and read by name, so the order of the columns plays no
part in reading one back.

## Main definitions

* `Rule.entry`: The entry of a rule at a key.
* `Countable`: A time that the database counts exactly.
* `bound`, `Exact`: What entries are bound as, and which of them are kept exactly.

## Theorems

* `signedOf_eightOctets`: A number in eight octets is read as itself.
* `microsOf_le_iff`: Exact counts are ordered as the times are.
* `decode_bound`: What an entry is bound as is decoded as the entry.
* `rule_eq_ok_iff`: A rule is made out of a row entry by entry.
* `rule_of_perm`: A rule is read from its columns in any order.
* `rule_ofRule`: A rule comes back from its row.
-/

namespace Rulebook

open Record (Key Kind)

/-- The entry of a rule at a key. -/
def Rule.entry (rule : Rule) : (key : Key) → key.kind.Entry
  | .id => rule.id.text
  | .name => rule.fields.name
  | .description => rule.fields.description
  | .condition => rule.fields.condition
  | .action => rule.fields.action
  | .isActive => rule.fields.isActive
  | .createdAt => rule.createdAt
  | .updatedAt => rule.updatedAt

namespace Database

/-- A time that the database counts exactly: a whole microsecond outside a leap
    second. -/
structure Countable (a : Instant) : Prop where
  whole : a.isWhole = true
  noLeap : a.nanos < 1000000000

/-- What an entry is bound as. -/
def bound : (kind : Kind) → kind.Entry → Parameter
  | .text, s => .text s
  | .textOrNull, s? => optionalText s?
  | .flag, b => .flag b
  | .time, a => .time (microsOf a)

/-- An entry that the database keeps exactly. -/
def Exact : (kind : Kind) → kind.Entry → Prop
  | .text, _ | .textOrNull, _ | .flag, _ => True
  | .time, a => Countable a

/-! ## Times -/

-- The count of a time that is counted exactly.
theorem microsOf_eq {a : Instant} (h : Countable a) :
    microsOf a = (a.seconds - epochSeconds) * 1000000 + (a.nanos / 1000 : Nat) := by
  have whole : a.nanos % 1000 = 0 := of_decide_eq_true h.whole
  have parts : (a.seconds - epochSeconds) * 1000000000 + (a.nanos : Int) =
      ((a.seconds - epochSeconds) * 1000000 + (a.nanos / 1000 : Nat)) * 1000 := by
    omega
  -- The cut to microseconds cuts nothing off.
  rw [microsOf, parts, Int.mul_tdiv_cancel _ (by decide)]

/-- Exact counts are ordered as the times are. -/
theorem microsOf_le_iff {a b : Instant} (ha : Countable a) (hb : Countable b) :
    microsOf a ≤ microsOf b ↔ a ≤ b := by
  have wholeA : a.nanos % 1000 = 0 := of_decide_eq_true ha.whole
  have wholeB : b.nanos % 1000 = 0 := of_decide_eq_true hb.whole
  have noLeapA := ha.noLeap
  have noLeapB := hb.noLeap
  rw [microsOf_eq ha, microsOf_eq hb, Instant.le_def]
  omega

-- The count of a time fits into sixty-four bits, as the calendar is not that
-- long.
theorem microsOf_bounds {a : Instant} (h : Countable a) :
    -9223372036854775808 ≤ microsOf a ∧ microsOf a < 9223372036854775808 := by
  have first := a.notBefore
  have last := a.notAfter
  have noLeap := h.noLeap
  rw [microsOf_eq h]
  simp only [calendarStart, calendarEnd, epochSeconds] at *
  omega

-- One octet more makes up one octet more of a word.
theorem octet_step {word high low : Nat} (h : high = low * 256) :
    word / high * 256 + word / low % 256 = word / low := by
  rw [h, ← Nat.div_div_eq_div_mul, Nat.mul_comm]
  exact Nat.div_add_mod (word / low) 256

-- Eight octets make up the word they were taken from.
theorem foldl_octets {word : Nat} (h : word < wordCount) :
    ([56, 48, 40, 32, 24, 16, 8, 0].map fun shift => (word >>> shift % 256).toUInt8).foldl
      (fun n b => n * 256 + b.toNat) 0 = word := by
  unfold wordCount at h
  have first : word / 72057594037927936 % 256 = word / 72057594037927936 :=
    Nat.mod_eq_of_lt (by omega)
  simp only [List.map_cons, List.map_nil, List.foldl_cons, List.foldl_nil, Nat.toUInt8,
    UInt8.toNat_ofNat', Nat.shiftRight_eq_div_pow, Nat.reducePow, Nat.mod_mod, Nat.zero_mul,
    Nat.zero_add, first]
  rw [octet_step (by decide), octet_step (by decide), octet_step (by decide),
    octet_step (by decide), octet_step (by decide), octet_step (by decide),
    octet_step (by decide), Nat.div_one]

/-- A number in eight octets is read as itself. -/
theorem signedOf_eightOctets {n : Int} (low : -9223372036854775808 ≤ n)
    (high : n < 9223372036854775808) : signedOf (eightOctets n) = n := by
  have small : (n % wordCount).toNat < wordCount := by
    unfold wordCount
    omega
  unfold signedOf eightOctets
  rw [foldl_octets small]
  unfold wordCount at *
  simp only
  split <;> omega

/-! ## Entries -/

theorem decodeText_octets (s : String) : decodeText (Text.octets s) = .ok s := by
  rw [decodeText, Text.ofOctets?_octets]

theorem decodeOctets_time {a : Instant} (h : Countable a) :
    decodeOctets .time (eightOctets (microsOf a)) = .ok a := by
  rcases microsOf_bounds h with ⟨low, high⟩
  simp only [decodeOctets, signedOf_eightOctets low high, instantOf?_microsOf h.whole h.noLeap]

-- An entry is what the cell of its column holds.
theorem entry_of_column? {row : Row} {key : Key} {column : Column} {cell : Cell}
    {entry : key.kind.Entry} (found : row.column? key.written = some (column, cell))
    (holds : decode key.kind column cell = .ok entry) : row.entry key = .ok entry := by
  unfold Row.entry
  rw [found]
  simp only [holds]

-- No entry of a rule is left out of its columns.
theorem mem_columns (key : Key) : key ∈ Rule.shape.columns := by
  cases key <;> decide

-- What an entry is bound as is decoded as the entry, where the type fits.
theorem decode_bound {kind : Kind} {entry : kind.Entry} (exact : Exact kind entry)
    {column : Column} (fits : column.type ∈ fitting kind) :
    decode kind column (bound kind entry).cell = .ok entry := by
  have fitting : (fitting kind).contains column.type = true := List.contains_iff_mem.2 fits
  cases kind with
  | text =>
    simp only [bound, Parameter.cell, decode, fitting, if_true, decodeOctets]
    exact decodeText_octets entry
  | textOrNull =>
    cases entry with
    | none => rfl
    | some s =>
      simp only [bound, optionalText, Parameter.cell, decode, fitting, if_true, decodeOctets,
        decodeText_octets]
      rfl
  | flag =>
    simp only [bound, Parameter.cell, decode, fitting, if_true, decodeOctets]
    cases entry <;> rfl
  | time =>
    simp only [bound, Parameter.cell, decode, fitting, if_true]
    exact decodeOctets_time exact

/-! ## Rules -/

section

variable {row : Row} {rule : Rule}

/-- A rule is made out of a row entry by entry. -/
theorem rule_eq_ok_iff : row.rule = .ok rule ↔ ∀ key, row.entry key = .ok (rule.entry key) := by
  constructor
  · intro h
    rcases Json.bind_eq_ok h with ⟨id, hid, h⟩
    rcases Json.bind_eq_ok h with ⟨name, hname, h⟩
    rcases Json.bind_eq_ok h with ⟨description, hdescription, h⟩
    rcases Json.bind_eq_ok h with ⟨condition, hcondition, h⟩
    rcases Json.bind_eq_ok h with ⟨action, haction, h⟩
    rcases Json.bind_eq_ok h with ⟨isActive, hisActive, h⟩
    rcases Json.bind_eq_ok h with ⟨createdAt, hcreatedAt, h⟩
    rcases Json.bind_eq_ok h with ⟨updatedAt, hupdatedAt, h⟩
    rw [← Except.ok.inj h]
    intro key
    cases key <;> assumption
  · intro entries
    simp only [Row.rule, entries, bind, Except.bind]
    rfl

-- The columns of a rule, each with what stands there.
theorem ofRule_eq (rule : Rule) : Row.ofRule rule = Rule.shape.columns.map fun key =>
    (⟨key.written, thereName key.kind⟩, (bound key.kind (rule.entry key)).cell) :=
  rfl

-- A value comes back under the type that its column has in the table.
theorem thereName_fits (kind : Kind) : thereName kind ∈ fitting kind := by
  cases kind <;> decide

-- What is found under a name is there, and has that name.
theorem mem_of_column? {name : String} {hit : Column × Cell} (found : row.column? name = some hit) :
    hit ∈ row ∧ hit.1.name = name := by
  have named := List.find?_some found
  exact ⟨List.mem_reverse.1 (List.mem_of_find?_eq_some found), of_decide_eq_true named⟩

/-- Where the columns of a row have different names, a column is found by its name. -/
theorem column?_of_mem (distinct : (row.map (·.1.name)).Nodup) {column : Column} {cell : Cell}
    (mem : (column, cell) ∈ row) : row.column? column.name = some (column, cell) := by
  cases found : row.column? column.name with
  | none =>
    have nowhere := List.find?_eq_none.1 found (column, cell) (List.mem_reverse.2 mem)
    exact absurd rfl (of_decide_eq_false (Bool.not_eq_true _ ▸ nowhere))
  | some hit =>
    rcases mem_of_column? found with ⟨there, named⟩
    rw [List.inj_on_of_nodup_map distinct there mem named]

/-- In the columns of a rule, in any order, an entry is found by its name. -/
theorem column?_of_perm (same : row.Perm (Row.ofRule rule)) (key : Key) :
    row.column? key.written =
      some (⟨key.written, thereName key.kind⟩, (bound key.kind (rule.entry key)).cell) := by
  have distinct : (row.map (·.1.name)).Nodup := by
    rw [(same.map _).nodup_iff]
    exact (by decide : (Rule.shape.columns.map (·.written)).Nodup)
  have mem : (⟨key.written, thereName key.kind⟩, (bound key.kind (rule.entry key)).cell) ∈ row := by
    rw [same.mem_iff, ofRule_eq]
    exact List.mem_map.2 ⟨key, mem_columns key, rfl⟩
  exact column?_of_mem distinct mem

/-- A rule is read from its columns in any order. -/
theorem rule_of_perm (created : Countable rule.createdAt) (updated : Countable rule.updatedAt)
    (same : row.Perm (Row.ofRule rule)) : row.rule = .ok rule := by
  refine rule_eq_ok_iff.2 fun key => ?_
  refine entry_of_column? (column?_of_perm same key) (decode_bound ?_ (thereName_fits _))
  cases key with
  | createdAt => exact created
  | updatedAt => exact updated
  | _ => trivial

/-- A rule comes back from its row. -/
theorem rule_ofRule (created : Countable rule.createdAt) (updated : Countable rule.updatedAt) :
    (Row.ofRule rule).rule = .ok rule :=
  rule_of_perm created updated (List.Perm.refl _)

end

end Database
end Rulebook

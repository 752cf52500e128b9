import Rulebook.Proofs.Decimal.Numeral
import Rulebook.Settings.CommandLine

/-!
# Words for Values

Which words stand for a value of a setting, said without the reader: a text stands for
itself, a number for itself in any of its numerals, a switch has two words, and texts
stand with commas between them.

Nothing is left out by this. What is read of a word is what the word stands for, and
the other way round, apart from words that are empty and texts that are empty between
their commas.

## Main definitions

* `Spells`: The words that stand for a value.
* `Full`: Values in which no text is empty.

## Theorems

* `parseNumber_eq_ok_iff`: Numbers are read from the numerals of thirty-two bits.
* `splitCommas_intercalate`: Texts without commas are taken apart again.
* `spells_iff`: What is read of a word is what the word stands for.
* `spells_toString`, `spells_switch`: All numbers and both switches have a word.
-/

namespace Rulebook

namespace Settings

open Decimal (Numeral)

/-- The words that stand for a value. -/
def Spells : (kind : Setting.Kind) → kind.Value → String → Prop
  | .text, s, word => word = s ∧ s ≠ ""
  | .number, n, word => Numeral word.toList n ∧ n ≤ 4294967295
  | .switch, b, word => word = if b then "true" else "false"
  | .texts, texts, word =>
    word = ",".intercalate texts ∧ texts ≠ [] ∧ ∀ text ∈ texts, text ≠ "" ∧ ',' ∉ text.toList

/-- Values in which no text is empty. -/
def Full : (kind : Setting.Kind) → kind.Value → Prop
  | .texts, texts => "" ∉ texts
  | .text, _ | .number, _ | .switch, _ => True

/-! ## Numbers -/

/-- Numbers are read from the numerals of thirty-two bits. -/
theorem parseNumber_eq_ok_iff {word : String} {n : Nat} :
    parseNumber word = .ok n ↔ Numeral word.toList n ∧ n ≤ 4294967295 := by
  have reads (m : Int) :
      Decimal.readInteger (-9223372036854775808) 9223372036854775807 word.toList = .ok m ↔
        Numeral word.toList m ∧ -9223372036854775808 ≤ m ∧ m ≤ 9223372036854775807 :=
    Decimal.readInteger_eq_ok_iff (by decide) (by decide)
  unfold parseNumber largestNumber
  constructor
  · intro h
    split at h
    · exact absurd h (by simp)
    · rename_i m read
      split at h
      · rename_i fits
        have same : m.toNat = n := Except.ok.inj h
        have positive : m = n := by omega
        rw [positive] at read
        exact ⟨((reads n).1 read).1, by omega⟩
      · exact absurd h (by simp)
  · rintro ⟨numeral, small⟩
    have read := (reads n).2 ⟨numeral, by omega, by omega⟩
    rw [read]
    simp only
    rw [if_pos (by omega), Int.toNat_natCast]

/-! ## Texts -/

theorem splitCommas_eq (cs : List Char) : splitCommas cs = cs.splitOn ',' := by
  induction cs with
  | nil => rfl
  | cons c rest ih =>
    rw [List.splitOn_eq_splitOnP, List.splitOnP_cons_eq_if_modifyHead, ← List.splitOn_eq_splitOnP,
      ← ih, splitCommas]
    by_cases comma : c = ','
    · simp only [comma, if_true, beq_self_eq_true]
    · rcases List.exists_cons_of_ne_nil (splitCommas_ne_nil rest) with ⟨first, others, split⟩
      simp only [comma, if_false, beq_eq_false_iff_ne.2 comma, Bool.false_eq_true, split,
        List.modifyHead_cons]

/-- Texts without commas are taken apart again. -/
theorem splitCommas_intercalate {texts : List String} (some : texts ≠ [])
    (plain : ∀ text ∈ texts, ',' ∉ text.toList) :
    (splitCommas (",".intercalate texts).toList).map String.ofList = texts := by
  have apart : ∀ cs ∈ texts.map String.toList, ',' ∉ cs := by
    intro cs mem
    rcases List.mem_map.1 mem with ⟨text, inside, rfl⟩
    exact plain text inside
  have comma : ",".toList = [','] := rfl
  rw [splitCommas_eq, String.toList_intercalate, comma,
    List.splitOn_intercalate ',' apart (fun h => some (List.map_eq_nil_iff.1 h)), List.map_map]
  exact List.map_id'' (fun text => String.ofList_toList) texts

-- There is no comma left in what stood between commas.
theorem comma_notMem_of_mem_splitCommas {cs part : List Char} (mem : part ∈ splitCommas cs) :
    ',' ∉ part := by
  induction cs generalizing part with
  | nil =>
    rw [List.mem_singleton.1 mem]
    exact List.not_mem_nil
  | cons c rest ih =>
    rcases List.exists_cons_of_ne_nil (splitCommas_ne_nil rest) with ⟨first, others, split⟩
    rw [split] at ih
    by_cases comma : c = ','
    · simp only [splitCommas, comma, if_true, split] at mem
      rcases List.mem_cons.1 mem with rfl | behind
      · exact List.not_mem_nil
      · exact ih behind
    · simp only [splitCommas, comma, if_false, split] at mem
      rcases List.mem_cons.1 mem with rfl | behind
      · rw [List.mem_cons, not_or]
        exact ⟨fun h => comma h.symm, ih List.mem_cons_self⟩
      · exact ih (List.mem_cons_of_mem _ behind)

-- A word is made up of what stands between its commas.
theorem intercalate_parts (word : String) :
    ",".intercalate ((splitCommas word.toList).map String.ofList) = word := by
  have comma : ",".toList = [','] := rfl
  have parts : ((splitCommas word.toList).map String.ofList).map String.toList =
      splitCommas word.toList := by
    rw [List.map_map]
    exact List.map_id'' (fun cs => String.toList_ofList) _
  refine String.toList_injective ?_
  rw [String.toList_intercalate, comma, parts, intercalate_splitCommas]

/-- Texts are read from the words that they make up. -/
theorem parts_eq_iff {word : String} {texts : List String} (full : "" ∉ texts) :
    (splitCommas word.toList).map String.ofList = texts ↔ Spells .texts texts word := by
  constructor
  · rintro rfl
    refine ⟨(intercalate_parts word).symm, fun h => splitCommas_ne_nil _ (List.map_eq_nil_iff.1 h),
      fun text mem => ⟨fun empty => full (empty ▸ mem), ?_⟩⟩
    rcases List.mem_map.1 mem with ⟨part, inside, rfl⟩
    rw [String.toList_ofList]
    exact comma_notMem_of_mem_splitCommas inside
  · rintro ⟨rfl, some, plain⟩
    exact splitCommas_intercalate some fun text mem => (plain text mem).2

/-! ## Values -/

-- No word that stands for a value is empty.
theorem ne_empty_of_spells {kind : Setting.Kind} {value : kind.Value} {word : String}
    (spelled : Spells kind value word) : word ≠ "" := by
  rintro rfl
  cases kind with
  | text => exact spelled.2 spelled.1.symm
  | number => cases spelled.1 with | bare row => exact row.filled rfl
  | switch =>
    cases value with
    | true => exact absurd spelled (by decide : ¬ "" = "true")
    | false => exact absurd spelled (by decide : ¬ "" = "false")
  | texts =>
    rcases spelled with ⟨made, some, plain⟩
    -- Of an empty word a single text is read, and that is empty.
    have read := splitCommas_intercalate some fun text mem => (plain text mem).2
    rw [← made] at read
    exact (plain "" (read ▸ List.mem_singleton.2 rfl)).1 rfl

/-- What is read of a word is what the word stands for, if nothing is empty. -/
theorem spells_iff {setting : Setting} {word : String} {value : setting.kind.Value} :
    Spells setting.kind value word ↔
      parseValue setting word = .ok value ∧ word ≠ "" ∧ Full setting.kind value := by
  refine (and_iff_left_of_imp ne_empty_of_spells).symm.trans ?_
  rw [and_left_comm, and_comm]
  refine and_congr_right fun filled => ?_
  unfold parseValue
  generalize setting.kind = kind at value
  cases kind with
  | text =>
    simp only [Spells, Full, Except.ok.injEq, and_true]
    exact and_iff_left_of_imp fun h => h ▸ filled
  | number =>
    simp only [Spells, Full, and_true]
    rw [← parseNumber_eq_ok_iff]
    cases parseNumber word <;> simp
  | switch =>
    simp only [Spells, Full, and_true]
    cases value with
    | true =>
      by_cases on : word = "true" <;> by_cases off : word = "false" <;> simp [on, off]
    | false =>
      by_cases on : word = "true" <;> by_cases off : word = "false" <;> simp [on, off]
  | texts =>
    simp only [Except.ok.injEq]
    constructor
    · intro spelled
      have full : Full .texts value := fun empty => (spelled.2.2 "" empty).1 rfl
      exact ⟨(parts_eq_iff full).2 spelled, full⟩
    · rintro ⟨read, full⟩
      exact (parts_eq_iff full).1 read

/-- Every number of thirty-two bits has a word, the one that it is written as. -/
theorem spells_toString {n : Nat} (small : n ≤ 4294967295) :
    Spells .number n (toString n) :=
  ⟨Decimal.numeral_toString n, small⟩

theorem spells_switch (b : Bool) : Spells .switch b (toString b) := by
  cases b <;> rfl

end Settings

end Rulebook

import Rulebook.Json
import Rulebook.Json.Scalar
import Rulebook.Proofs.Text.Octets

/-!
# Texts There and Back

The writer of texts escapes the quote, the backslash and the controls, and lets
every other character stand for itself. The reader takes octets one by one, so
the two are compared character by character: in front of any rest, the octets of
an escaped character make the reader gather the octets of the character. What
has been gathered by the closing quote is the text in UTF-8, and is found to be
so.

## Main definitions

* `Plain`: An octet that stands for itself.

## Theorems

* `readTextOctets_plain_append`: Plain octets are gathered as they are.
* `readTextOctets_escaped`: An escaped character is gathered as itself.
* `readText_written`: A text that has been written is read as itself.
-/

namespace Rulebook
namespace Json

open Text (Octets encoded)

/-- An octet that stands for itself: no control, no quote and no backslash. -/
def Plain (b : UInt8) : Prop :=
  0x20 ≤ b ∧ b ≠ 0x22 ∧ b ≠ 0x5C

theorem plain_of_le {b : UInt8} (h : 0x80 ≤ b) : Plain b := by
  rw [UInt8.le_iff_toNat_le] at h
  have high : 128 ≤ b.toNat := h
  refine ⟨?_, ?_, ?_⟩
  · rw [UInt8.le_iff_toNat_le]
    exact Nat.le_trans (by decide) high
  · rintro rfl
    exact absurd high (by decide)
  · rintro rfl
    exact absurd high (by decide)

/-! ## One step of the reader -/

theorem readTextOctets_octet {done rest : Octets} {b : UInt8} (h : Plain b) :
    readTextOctets done (b :: rest) = readTextOctets (b :: done) rest := by
  rcases h with ⟨printable, quote, backslash⟩
  have control : ¬ b < 0x20 := UInt8.not_lt.mpr printable
  rw [readTextOctets, if_neg control]
  · exact fun h => quote h
  · exact fun _ _ _ _ _ h => absurd h backslash
  · exact fun _ h => absurd h backslash
  · exact fun _ _ h => absurd h backslash
  · exact fun h => absurd h backslash

theorem readTextOctets_short {done rest : Octets} {b e : UInt8} (unit : b ≠ 0x75)
    (h : escapeOctet? b = some e) :
    readTextOctets done (0x5C :: b :: rest) = readTextOctets (e :: done) rest := by
  rw [readTextOctets, h]
  · exact fun _ _ _ _ _ h => absurd h unit
  · exact fun h => absurd h unit

theorem readTextOctets_unit {done rest : Octets} {a b c d : UInt8} {n : Nat}
    (h : hexUnit? a b c d = some n) (low : isLowSurrogate n = false)
    (high : isHighSurrogate n = false) :
    readTextOctets done (0x5C :: 0x75 :: a :: b :: c :: d :: rest) =
      readTextOctets (reversedOctets n ++ done) rest := by
  rw [readTextOctets, h]
  simp only [low, high, Bool.false_eq_true, if_false]

/-! ## Characters -/

/-- Plain octets are gathered as they are. -/
theorem readTextOctets_plain_append {done bs rest : Octets} (h : ∀ b ∈ bs, Plain b) :
    readTextOctets done (bs ++ rest) = readTextOctets (bs.reverse ++ done) rest := by
  induction bs generalizing done with
  | nil => rfl
  | cons b bs ih =>
      have hb : Plain b := h b (List.mem_cons_self ..)
      have hbs : ∀ b ∈ bs, Plain b := fun b hb => h b (List.mem_cons_of_mem _ hb)
      rw [List.cons_append, readTextOctets_octet hb, ih hbs, List.reverse_cons,
        List.append_assoc, List.singleton_append]

theorem plain_of_mem_utf8EncodeChar {c : Char} (quote : c ≠ '"') (backslash : c ≠ '\\')
    (printable : ¬ c.toNat < 32) {b : UInt8} (hb : b ∈ String.utf8EncodeChar c) : Plain b := by
  by_cases small : c.toNat < 128
  · rw [Text.utf8EncodeChar_of_lt small, List.mem_singleton] at hb
    subst hb
    have value : (UInt8.ofNat c.toNat).toNat = c.toNat := by
      rw [UInt8.toNat_ofNat', Nat.mod_eq_of_lt (by omega)]
    have differs : ∀ d : Char, d.toNat < 128 → c ≠ d →
        UInt8.ofNat c.toNat ≠ UInt8.ofNat d.toNat := by
      intro d hd hne heq
      have := congrArg UInt8.toNat heq
      rw [value, UInt8.toNat_ofNat', Nat.mod_eq_of_lt (by omega)] at this
      exact hne (Char.toNat_inj.mp this)
    refine ⟨?_, differs '"' (by decide) quote, differs '\\' (by decide) backslash⟩
    rw [UInt8.le_iff_toNat_le, value]
    exact Nat.le_of_not_lt printable
  · exact plain_of_le (Text.le_of_mem_utf8EncodeChar (Nat.le_of_not_lt small) hb)

-- A digit is one octet, and has the value it was written for.
theorem hexValue?_hexDigit {n : Nat} (h : n < 16) :
    ∃ b, String.utf8EncodeChar (hexDigit n) = [b] ∧ hexValue? b = some n := by
  have digits : ∀ d : Fin 16, (hexDigit d).toNat < 128 ∧
      hexValue? (UInt8.ofNat (hexDigit d).toNat) = some d.val := by
    decide
  exact ⟨_, Text.utf8EncodeChar_of_lt (digits ⟨n, h⟩).1, (digits ⟨n, h⟩).2⟩

theorem readTextOctets_control {done rest : Octets} {c : Char} (h : c.toNat < 32) :
    readTextOctets done
        (encoded ['\\', 'u', '0', '0', hexDigit (c.toNat / 16), hexDigit (c.toNat % 16)] ++ rest) =
      readTextOctets ((String.utf8EncodeChar c).reverse ++ done) rest := by
  have highSmall : c.toNat / 16 < 16 := by omega
  have lowSmall : c.toNat % 16 < 16 := by omega
  rcases hexValue?_hexDigit highSmall with ⟨a, octetOfHigh, high⟩
  rcases hexValue?_hexDigit lowSmall with ⟨b, octetOfLow, low⟩
  have zero : hexValue? 0x30 = some 0 := rfl
  have unit : hexUnit? 0x30 0x30 a b = some c.toNat := by
    simp only [hexUnit?, zero, high, low]
    congr 1
    omega
  have written : encoded ['\\', 'u', '0', '0', hexDigit (c.toNat / 16), hexDigit (c.toNat % 16)] =
      [0x5C, 0x75, 0x30, 0x30, a, b] := by
    simp only [Text.encoded_cons, Text.encoded_nil, octetOfHigh, octetOfLow]
    rfl
  have notLow : isLowSurrogate c.toNat = false := by
    simp only [isLowSurrogate, Bool.and_eq_false_iff, decide_eq_false_iff_not]
    omega
  have notHigh : isHighSurrogate c.toNat = false := by
    simp only [isHighSurrogate, Bool.and_eq_false_iff, decide_eq_false_iff_not]
    omega
  rw [written]
  simp only [List.cons_append, List.nil_append]
  rw [readTextOctets_unit unit notLow notHigh, reversedOctets, Char.ofNat_toNat]

theorem readTextOctets_named {done rest : Octets} {c d : Char} {n : Nat} {b : UInt8}
    (value : c.toNat = n) (small : n < 128) (written : String.utf8EncodeChar d = [b])
    (unit : b ≠ 0x75) (h : escapeOctet? b = some (UInt8.ofNat n)) :
    readTextOctets done (encoded ['\\', d] ++ rest) =
      readTextOctets ((String.utf8EncodeChar c).reverse ++ done) rest := by
  subst value
  have octets : encoded ['\\', d] = [0x5C, b] := by
    simp only [Text.encoded_cons, Text.encoded_nil, written]
    rfl
  rw [octets, Text.utf8EncodeChar_of_lt small]
  exact readTextOctets_short unit h

/-- An escaped character is gathered as itself. -/
theorem readTextOctets_escaped {done rest : Octets} (c : Char) :
    readTextOctets done (encoded (escaped c) ++ rest) =
      readTextOctets ((String.utf8EncodeChar c).reverse ++ done) rest := by
  unfold escaped
  -- One case for each sign with a short escape, then the other controls, then the rest.
  split
  · next h => exact readTextOctets_named (congrArg Char.toNat h) (by decide) rfl (by decide) rfl
  split
  · next h => exact readTextOctets_named (congrArg Char.toNat h) (by decide) rfl (by decide) rfl
  split
  · next h => exact readTextOctets_named h (by decide) rfl (by decide) rfl
  split
  · next h => exact readTextOctets_named h (by decide) rfl (by decide) rfl
  split
  · next h => exact readTextOctets_named h (by decide) rfl (by decide) rfl
  split
  · next h => exact readTextOctets_named h (by decide) rfl (by decide) rfl
  split
  · next h => exact readTextOctets_named h (by decide) rfl (by decide) rfl
  split
  · next h => exact readTextOctets_control h
  · next quote backslash _ _ _ _ _ printable =>
      rw [Text.encoded_cons, Text.encoded_nil, List.append_nil]
      exact readTextOctets_plain_append
        fun b hb => plain_of_mem_utf8EncodeChar quote backslash printable hb

/-! ## Texts -/

theorem readTextOctets_written {done rest : Octets} (cs : List Char) :
    readTextOctets done (encoded (cs.flatMap escaped) ++ 0x22 :: rest) =
      .ok (done.reverse ++ encoded cs, rest) := by
  induction cs generalizing done with
  | nil => simp only [List.flatMap_nil, Text.encoded_nil, List.nil_append, readTextOctets,
      List.append_nil]
  | cons c cs ih =>
      rw [List.flatMap_cons, Text.encoded_append, List.append_assoc, readTextOctets_escaped, ih,
        List.reverse_append, List.reverse_reverse, List.append_assoc, Text.encoded_cons]

/-- A text that has been written is read as itself. -/
theorem readText_written (s : String) (rest : Octets) :
    readText (encoded (s.toList.flatMap escaped) ++ 0x22 :: rest) = .ok (s, rest) := by
  simp only [readText, readTextOctets_written, List.reverse_nil, List.nil_append,
    ← Text.octets_eq_encoded, bind, Except.bind, Text.ofOctets?_octets]

-- The octets of a text between quotes.
theorem encoded_textChars (s : String) (rest : Octets) :
    encoded (textChars s) ++ rest =
      0x22 :: (encoded (s.toList.flatMap escaped) ++ 0x22 :: rest) := by
  have quote : String.utf8EncodeChar '"' = [0x22] := rfl
  rw [textChars, List.cons_append, Text.encoded_cons, Text.encoded_append, Text.encoded_cons,
    Text.encoded_nil, quote, List.append_nil, List.singleton_append, List.cons_append,
    List.append_assoc, List.singleton_append]

@[simp] theorem wantText_textChars (wanted s : String) (rest : Octets) :
    wantText wanted (encoded (textChars s) ++ rest) = .ok (s, rest) := by
  rw [encoded_textChars, wantText_quote, readText_written]

end Json
end Rulebook

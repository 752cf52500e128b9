import Rulebook.Text.Octets

/-!
# The Octets of a Character

UTF-8 writes a text character by character. The characters below 128 are written
as one octet that carries their number; every other character is written in
octets that are all 128 at least, so that none of them can be taken for a quote,
a backslash or a control.

## Main definitions

* `encoded`: The octets of characters, one character after the other.

## Theorems

* `octets_ofList`: A text is written character by character.
* `utf8EncodeChar_of_lt`: A character below 128 is one octet.
* `le_of_mem_utf8EncodeChar`: The octets of any other character are 128 at least.
-/

namespace Rulebook
namespace Text

/-- The octets of characters, one character after the other. -/
def encoded (cs : List Char) : Octets :=
  cs.flatMap String.utf8EncodeChar

@[simp] theorem encoded_nil : encoded [] = [] := rfl

@[simp] theorem encoded_cons (c : Char) (cs : List Char) :
    encoded (c :: cs) = String.utf8EncodeChar c ++ encoded cs := by
  simp only [encoded, List.flatMap_cons]

@[simp] theorem encoded_append (cs ds : List Char) :
    encoded (cs ++ ds) = encoded cs ++ encoded ds := by
  simp only [encoded, List.flatMap_append]

/-- A text is written character by character. -/
theorem octets_ofList (cs : List Char) : octets (String.ofList cs) = encoded cs := by
  simp only [octets, String.toByteArray_ofList, List.utf8Encode, List.data_toByteArray,
    List.toList_toArray, encoded]

theorem octets_eq_encoded (s : String) : octets s = encoded s.toList := by
  rw [← octets_ofList, String.ofList_toList]

/-- A character below 128 is one octet. -/
theorem utf8EncodeChar_of_lt {c : Char} (h : c.toNat < 128) :
    String.utf8EncodeChar c = [UInt8.ofNat c.toNat] := by
  have small : c.val.toNat ≤ 0x7f := by
    have : c.toNat = c.val.toNat := rfl
    omega
  rw [String.utf8EncodeChar, if_pos small]
  rfl

theorem le_ofNat {n : Nat} (low : 128 ≤ n) (high : n < 256) : 0x80 ≤ UInt8.ofNat n := by
  rw [UInt8.le_iff_toNat_le, UInt8.toNat_ofNat', Nat.mod_eq_of_lt high]
  exact low

/-- The octets of any other character are 128 at least. -/
theorem le_of_mem_utf8EncodeChar {c : Char} (h : 128 ≤ c.toNat) {b : UInt8}
    (hb : b ∈ String.utf8EncodeChar c) : 0x80 ≤ b := by
  have large : ¬ c.val.toNat ≤ 0x7f := by
    have : c.toNat = c.val.toNat := rfl
    omega
  rw [String.utf8EncodeChar, if_neg large] at hb
  -- Every octet is a sum of a mark of 128 or more and of a part too small to carry.
  split at hb
  · simp only [List.mem_cons, List.not_mem_nil, or_false] at hb
    rcases hb with rfl | rfl <;> exact le_ofNat (by omega) (by omega)
  · split at hb
    · simp only [List.mem_cons, List.not_mem_nil, or_false] at hb
      rcases hb with rfl | rfl | rfl <;> exact le_ofNat (by omega) (by omega)
    · simp only [List.mem_cons, List.not_mem_nil, or_false] at hb
      rcases hb with rfl | rfl | rfl | rfl <;> exact le_ofNat (by omega) (by omega)

end Text
end Rulebook

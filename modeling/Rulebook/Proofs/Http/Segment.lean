import Rulebook.Http.Message
import Rulebook.Http.Percent
import Rulebook.Proofs.Json.Literal

/-!
# Ways to Write a Segment

A segment of a path can stand for any octets, for each of them can be written as a
percent sign and two digits. There is more than one way to do so: the digits may be
letters of either case, and an octet that nothing hangs on may also stand for itself. A
list of signs is one such way, with every choice made.

Decoding goes once from left to right and undoes exactly one writing. A percent sign
that is written as a sign of its own comes out as a percent sign, and is not looked at
again together with what stands behind it.

## Main definitions

* `isUnreserved`: The octets that may stand for themselves.
* `Sign`: An octet as it is written.
* `Sign.octet`, `Sign.octets`: What a sign stands for, and how it is written.
* `signsText`: The text that signs are written as.

## Theorems

* `percentDecode_signs`: Signs are decoded as what they stand for.
* `isSegmentOctet_of_mem_signs`: What is written ends neither a segment nor a path.
* `readTarget_eq_ok`: A target that starts with a slash is the path that it consists of.
* `of?_eq_ok`: A request is put together from legal parts.
* `octets_signsText`, `exists_signs`: Every writing is a text, and any octets can be
  written.
-/

namespace Rulebook
namespace Http

open Json (HexDigit)
open Text (Octets octets encoded)

/-- Whether an octet may stand for itself in any segment: it is a letter, a digit or one
    of four signs of ASCII. -/
def isUnreserved (b : UInt8) : Bool :=
  isLetter b || isDigit b || (octets "-._~").contains b

/-- An octet as it is written in a segment. -/
inductive Sign where
  | plain (b : UInt8) (unreserved : isUnreserved b = true)
  | percent (high low : HexDigit)

namespace Sign

/-- The octet that a sign stands for. -/
def octet : Sign → UInt8
  | plain b _ => b
  | percent high low => UInt8.ofNat high.value * 16 + UInt8.ofNat low.value

/-- How a sign is written. -/
def octets : Sign → Octets
  | plain b _ => [b]
  | percent high low => [0x25, high.octet, low.octet]

end Sign

/-! ## Decoding -/

-- A digit has the value it was written for, whatever its case.
theorem hexValue?_octet (d : HexDigit) : hexValue? d.octet = some (UInt8.ofNat d.value) := by
  have digits : ∀ (value : Fin 16) (capital : Bool),
      hexValue? (HexDigit.mk value capital).octet = some (UInt8.ofNat value) := by
    decide
  exact digits d.value d.capital

/-- Signs are decoded as what they stand for, each of them once. -/
theorem percentDecode_signs (signs : List Sign) :
    percentDecode (signs.flatMap Sign.octets) = signs.map Sign.octet := by
  induction signs with
  | nil => rfl
  | cons sign rest ih =>
    rw [List.flatMap_cons, List.map_cons]
    cases sign with
    | percent high low =>
      simp only [Sign.octets, Sign.octet, List.cons_append, List.nil_append, percentDecode,
        hexValue?_octet, ih]
    | plain b unreserved =>
      have percent : b ≠ 0x25 := by
        rintro rfl
        exact absurd unreserved (by decide)
      rw [Sign.octets, Sign.octet, List.singleton_append, percentDecode, ih]
      exact fun _ _ _ same => absurd same percent

/-! ## Paths -/

/-- Whether an octet of ASCII may stand inside a segment: it may stand in a path, and ends
    neither the segment nor the path. -/
def isSegmentOctet (b : UInt8) : Bool :=
  isPathOctet b && b ≠ 0x2F && b ≠ 0x3F && b ≠ 0x23 && b < 0x80

theorem isSegmentOctet_of_isUnreserved {b : UInt8} (h : isUnreserved b = true) :
    isSegmentOctet b = true := by
  revert h
  exact Text.forall_octet (p := fun b => isUnreserved b = true → isSegmentOctet b = true)
    (by decide +kernel) b

theorem isSegmentOctet_hexDigit (d : HexDigit) : isSegmentOctet d.octet = true := by
  have digits : ∀ (value : Fin 16) (capital : Bool),
      isSegmentOctet (HexDigit.mk value capital).octet = true := by
    decide
  exact digits d.value d.capital

/-- What signs are written as ends neither a segment nor a path. -/
theorem isSegmentOctet_of_mem_signs {signs : List Sign} {b : UInt8}
    (h : b ∈ signs.flatMap Sign.octets) : isSegmentOctet b = true := by
  rcases List.mem_flatMap.1 h with ⟨sign, -, hb⟩
  cases sign with
  | plain c unreserved =>
    rw [List.mem_singleton.1 hb]
    exact isSegmentOctet_of_isUnreserved unreserved
  | percent high low =>
    simp only [Sign.octets, List.mem_cons, List.not_mem_nil, or_false] at hb
    rcases hb with rfl | rfl | rfl
    · decide
    · exact isSegmentOctet_hexDigit high
    · exact isSegmentOctet_hexDigit low

-- A path that nothing ends is read to its end.
theorem pathOf_eq_ok {path : Octets} (visible : path ≠ [])
    (inside : ∀ b ∈ path, isPathOctet b = true ∧ b ≠ 0x3F ∧ b ≠ 0x23) :
    pathOf path = .ok path := by
  have whole : path.takeWhile (fun b => b ≠ 0x3F && b ≠ 0x23) = path := by
    refine List.takeWhile_eq_self_iff.2 fun b hb => ?_
    rw [decide_eq_true (inside b hb).2.1, decide_eq_true (inside b hb).2.2]
    rfl
  have legal : path.all isPathOctet = true := List.all_eq_true.2 fun b hb => (inside b hb).1
  have filled : path.isEmpty = false := by
    rw [← Bool.not_eq_true, List.isEmpty_iff]
    exact visible
  simp only [pathOf, whole, legal, filled, List.drop_length, Bool.not_true, Bool.false_eq_true,
    if_false]
  rfl

/-- A target that starts with a slash, and goes on, is the path that it consists of. -/
theorem readTarget_eq_ok {b : UInt8} {rest : Octets}
    (fits : (0x2F :: b :: rest).length ≤ longestTarget)
    (inside : ∀ c ∈ 0x2F :: b :: rest, isPathOctet c = true ∧ c ≠ 0x3F ∧ c ≠ 0x23) :
    readTarget (0x2F :: b :: rest) = .ok (0x2F :: b :: rest) := by
  rw [← pathOf_eq_ok (List.cons_ne_nil _ _) inside, readTarget, if_neg (Nat.not_lt.2 fits)]
  exact nofun

/-- A request is put together from legal parts. -/
theorem of?_eq_ok {method target : String} {headers made : Headers} {path : Octets}
    (token : isToken (octets method) = true) (read : readTarget (octets target) = .ok path)
    (legal : (headers.mapM fun (name, value) => Request.header name value) = .ok made)
    (body : Octets) :
    Request.of? method target headers body = .ok { method, path, headers := made, body } := by
  simp only [Request.of?, token, read, legal, Bool.not_true, Bool.false_eq_true, if_false]
  rfl

/-! ## Texts -/

/-- The text that signs are written as. -/
def signsText (signs : List Sign) : String :=
  String.ofList ((signs.flatMap Sign.octets).map fun b => Char.ofNat b.toNat)

-- An octet below 128 is the whole of a character.
theorem utf8EncodeChar_ofNat {b : UInt8} (small : b < 0x80) :
    String.utf8EncodeChar (Char.ofNat b.toNat) = [b] := by
  revert small
  exact Text.forall_octet
    (p := fun b => b < 0x80 → String.utf8EncodeChar (Char.ofNat b.toNat) = [b])
    (by decide +kernel) b

/-- The octets of the text are those that the signs are written as. -/
theorem octets_signsText (signs : List Sign) :
    octets (signsText signs) = signs.flatMap Sign.octets := by
  have single : ∀ b ∈ signs.flatMap Sign.octets,
      String.utf8EncodeChar (Char.ofNat b.toNat) = [b] := by
    intro b hb
    refine utf8EncodeChar_ofNat ?_
    have inside := isSegmentOctet_of_mem_signs hb
    simp only [isSegmentOctet, Bool.and_eq_true, decide_eq_true_eq] at inside
    exact inside.2
  rw [signsText, Text.octets_ofList, encoded, List.flatMap_map, List.flatMap_congr single,
    List.flatMap_singleton']

/-- An octet that is written by two digits, in small letters. -/
def percentSign (b : UInt8) : Sign :=
  .percent (.ofNat (b.toNat / 16)) (.ofNat b.toNat)

-- Every octet can be written by two digits.
theorem octet_percentSign (b : UInt8) : (percentSign b).octet = b :=
  Text.forall_octet (p := fun b => (percentSign b).octet = b) (by decide +kernel) b

/-- Any octets can be written. -/
theorem exists_signs (bs : Octets) : ∃ signs : List Sign, signs.map Sign.octet = bs := by
  refine ⟨bs.map percentSign, ?_⟩
  rw [List.map_map]
  exact (List.map_congr_left fun b _ => octet_percentSign b).trans (List.map_id bs)

end Http
end Rulebook

import Rulebook.Json.Fault

/-!
# Texts inside JSON

The inside of a quoted text. Octets stand for themselves, except that a control
is refused and a backslash starts an escape; a number of four hexadecimal digits
names a UTF-16 unit, and two units that belong together name one character.
Only when the closing quote has been found is the whole looked at as UTF-8. A
text with stray octets is then refused, and what is left of the decoded octets
from the first stray one on counts as unread.

## Main definitions

* `escapeOctet?`: The octet that a short escape stands for.
* `hexUnit?`: The UTF-16 unit that four digits name.
* `readTextOctets`: The octets of a text, up to its closing quote.
* `readText`: The text.
-/

namespace Rulebook
namespace Json

open Text (Octets)

/-- The octet that a short escape stands for. -/
def escapeOctet? (b : UInt8) : Option UInt8 :=
  if b = 0x22 then some 0x22
  else if b = 0x5C then some 0x5C
  else if b = 0x2F then some 0x2F
  else if b = 0x62 then some 0x08
  else if b = 0x66 then some 0x0C
  else if b = 0x6E then some 0x0A
  else if b = 0x72 then some 0x0D
  else if b = 0x74 then some 0x09
  else none

/-- The value of a hexadecimal digit, in letters of either case. -/
def hexValue? (b : UInt8) : Option Nat :=
  let n := b.toNat
  if 48 ≤ n ∧ n ≤ 57 then some (n - 48)
  else if 97 ≤ n ∧ n ≤ 102 then some (n - 87)
  else if 65 ≤ n ∧ n ≤ 70 then some (n - 55)
  else none

/-- The UTF-16 unit that four hexadecimal digits name. -/
def hexUnit? (a b c d : UInt8) : Option Nat :=
  match hexValue? a, hexValue? b, hexValue? c, hexValue? d with
  | some a, some b, some c, some d => some (((a * 16 + b) * 16 + c) * 16 + d)
  | _, _, _, _ => none

/-- Whether a unit is the first of two that belong together. -/
def isHighSurrogate (n : Nat) : Bool :=
  0xD800 ≤ n && n ≤ 0xDBFF

/-- Whether a unit is the second of two that belong together. -/
def isLowSurrogate (n : Nat) : Bool :=
  0xDC00 ≤ n && n ≤ 0xDFFF

/-- The code point of two units that belong together. -/
def joinSurrogates (high low : Nat) : Nat :=
  (high - 0xD800) * 1024 + (low - 0xDC00) + 0x10000

/-- The octets of a code point, last one first. -/
def reversedOctets (n : Nat) : Octets :=
  (String.utf8EncodeChar (Char.ofNat n)).reverse

/-- The refusal of a text in which a first unit is followed by no second one.
    What stands in the way counts as read. -/
def unpaired {α : Type} : Octets → Except Fault α
  | [] => faultAt .endInText []
  | 0x5C :: [] => faultAt .endInText []
  | 0x5C :: 0x75 :: _ => faultAt .endInText []
  | 0x5C :: _ :: rest => faultAt .endOfHexEscape rest
  | _ :: rest => faultAt .endOfHexEscape rest

/-- Reads the octets of a text up to its closing quote, in front of those that
    have been read already, which are kept last one first. -/
def readTextOctets (done : Octets) : Read Octets
  | [] => faultAt .endInText []
  | 0x22 :: rest => .ok (done.reverse, rest)
  | 0x5C :: 0x75 :: a :: b :: c :: d :: rest =>
    match hexUnit? a b c d with
    | none => faultAt .badEscape rest
    | some n =>
      if isLowSurrogate n then faultAt .loneSurrogate rest
      else if isHighSurrogate n then
        match rest with
        | 0x5C :: 0x75 :: e :: f :: g :: h :: rest =>
          match hexUnit? e f g h with
          | none => faultAt .badEscape rest
          | some m =>
            if isLowSurrogate m then
              readTextOctets (reversedOctets (joinSurrogates n m) ++ done) rest
            else faultAt .loneSurrogate rest
        | rest => unpaired rest
      else readTextOctets (reversedOctets n ++ done) rest
  | 0x5C :: 0x75 :: _ => faultAt .endInText []
  | 0x5C :: b :: rest =>
    match escapeOctet? b with
    | none => faultAt .badEscape rest
    | some e => readTextOctets (e :: done) rest
  | 0x5C :: [] => faultAt .endInText []
  | b :: rest =>
    if b < 0x20 then faultAt .controlInText rest else readTextOctets (b :: done) rest

/-- Reads a text, of which the opening quote has been read. -/
def readText : Read String := fun bs => do
  let (decoded, rest) ← readTextOctets [] bs
  match Text.ofOctets? decoded with
  | some s => .ok (s, rest)
  | none =>
    let unread := decoded.length - Text.strayAt decoded
    .error { cause := .badOctets, left := rest.length + unread }

end Json
end Rulebook

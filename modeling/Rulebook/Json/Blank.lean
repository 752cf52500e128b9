import Rulebook.Json.Fault

/-!
# Blanks and Words of JSON Texts

The four octets that may stand between the parts of a JSON text, and the three
words that stand for themselves.

## Main definitions

* `isBlank`, `skipBlanks`: Blanks, and a text without those in front.
* `readWord`: Reads the rest of a word.

## Theorems

* `skipBlanks_of_not_blank`: A text that starts with no blank is left alone.
* `skipBlanks_blanks_append`: Blanks in front make no difference.
-/

namespace Rulebook
namespace Json

open Text (Octets)

/-- Space, tab, line feed and carriage return. -/
def isBlank (b : UInt8) : Bool :=
  b = 0x20 || b = 0x09 || b = 0x0A || b = 0x0D

/-- A text without the blanks it starts with. -/
def skipBlanks (bs : Octets) : Octets :=
  bs.dropWhile isBlank

/-- Reads the rest of a word, of which the first letter has been read. -/
def readWord : Octets → Octets → Except Fault Octets
  | [], bs => .ok bs
  | _ :: _, [] => faultAt .endInValue []
  | w :: rest, b :: bs => if w = b then readWord rest bs else faultAt .expectedWord bs

/-- What follows the first letter of the words. -/
def restOfNull : Octets := [0x75, 0x6C, 0x6C]

/-- What follows the first letter of `true`. -/
def restOfTrue : Octets := [0x72, 0x75, 0x65]

/-- What follows the first letter of `false`. -/
def restOfFalse : Octets := [0x61, 0x6C, 0x73, 0x65]

/-- A text that starts with no blank is left alone. -/
@[simp] theorem skipBlanks_of_not_blank {b : UInt8} {bs : Octets} (h : isBlank b = false) :
    skipBlanks (b :: bs) = b :: bs := by
  simp [skipBlanks, h]

/-- Blanks in front make no difference. -/
theorem skipBlanks_blanks_append {ws bs : Octets} (h : ∀ b ∈ ws, isBlank b = true) :
    skipBlanks (ws ++ bs) = skipBlanks bs := by
  induction ws with
  | nil => rfl
  | cons w rest ih =>
    simp only [List.mem_cons, forall_eq_or_imp] at h
    simpa [skipBlanks, h.1] using ih h.2

-- A word is read off the front of a text that starts with it.
@[simp] theorem readWord_append (w bs : Octets) : readWord w (w ++ bs) = .ok bs := by
  induction w with
  | nil => simp [readWord]
  | cons c rest ih => simp [readWord, ih]

end Json
end Rulebook

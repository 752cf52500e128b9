/-!
# Text as Octets

Everything that crosses the edge of the service is a sequence of octets, and
everything inside it is text. This module holds the passage between the two:
UTF-8, with nothing added. Sequences are plain lists, because the readers that
consume them work from the front and say what is left over.

## Main definitions

* `octets`: The UTF-8 form of a text.
* `ofOctets?`: The text with a given UTF-8 form, if there is one.
* `strayAt`: Where a sequence ceases to be such a form.

## Theorems

* `ofOctets?_octets`: Reading the form of a text gives back the text.
* `octets_append`: The form of a joined text is the joined forms.
* `forall_octet`: What holds of each of the 256 octets holds of every octet.
-/

namespace Rulebook
namespace Text

/-- A sequence of octets. -/
abbrev Octets := List UInt8

/-- The UTF-8 form of a text. -/
def octets (s : String) : Octets :=
  s.toByteArray.data.toList

/-- The text whose UTF-8 form is the given sequence; nothing when the sequence
    is no such form (a stray continuation, an overlong form, a surrogate). -/
def ofOctets? (bs : Octets) : Option String :=
  String.fromUTF8? ⟨bs.toArray⟩

/-- How many octets the character has that a sequence starts with; nothing when
    it starts with no character. -/
def leadingLength? (bs : Octets) : Option Nat :=
  [1, 2, 3, 4].find? fun n =>
    (bs.take n).length = n && (ofOctets? (bs.take n)).isSome

/-- The place of the first octet that belongs to no character, in a sequence of
    which some octets have been passed. Every round passes a character. -/
def strayBehind : (rounds passed : Nat) → Octets → Nat
  | 0, passed, _ => passed
  | rounds + 1, passed, bs =>
    match leadingLength? bs with
    | some n => strayBehind rounds (passed + n) (bs.drop n)
    | none => passed

/-- The place of the first octet that belongs to no character. -/
def strayAt (bs : Octets) : Nat :=
  strayBehind bs.length 0 bs

/-- The form of a text is read back as that text. -/
@[simp] theorem ofOctets?_octets (s : String) : ofOctets? (octets s) = some s := by
  have h : (⟨s.toByteArray.data.toList.toArray⟩ : ByteArray) = s.toByteArray := by
    simp
  unfold ofOctets? octets
  rw [h]
  simp [String.fromUTF8?, s.isValidUTF8, String.fromUTF8]

/-- The form of a joined text is the joined forms. -/
@[simp] theorem octets_append (s t : String) : octets (s ++ t) = octets s ++ octets t := by
  simp [octets]

-- The empty text has the empty form.
@[simp] theorem octets_empty : octets "" = [] := rfl

/-- What holds of each of the 256 octets holds of every octet. -/
theorem forall_octet {p : UInt8 → Prop} (h : ∀ n : Fin 256, p (UInt8.ofFin n)) (b : UInt8) :
    p b := by
  simpa using h b.toFin

-- Two texts with one form are one text.
theorem octets_injective {s t : String} (h : octets s = octets t) : s = t := by
  have := congrArg ofOctets? h
  simpa using this

end Text
end Rulebook

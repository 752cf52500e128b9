import Rulebook.Text.Octets

/-!
# Stray Octets

Says what keeps a sequence of octets from being UTF-8: where the first octet
stands that belongs to no character, and how many octets of a character that
goes wrong had been good until then.

## Main definitions

* `strayLength?`: How many octets make up the first fault.
* `strayMessage`: The wording of the first fault.
-/

namespace Rulebook
namespace Text

/-- Whether an octet continues a character. -/
def isContinuation (b : UInt8) : Bool :=
  0x80 ≤ b && b ≤ 0xBF

/-- How many octets follow a first octet, and the bounds of the first of them;
    nothing for an octet that starts no character. -/
def following? (b : UInt8) : Option (Nat × UInt8 × UInt8) :=
  if 0xC2 ≤ b ∧ b ≤ 0xDF then some (1, 0x80, 0xBF)
  else if b = 0xE0 then some (2, 0xA0, 0xBF)
  else if b = 0xED then some (2, 0x80, 0x9F)
  else if 0xE1 ≤ b ∧ b ≤ 0xEF then some (2, 0x80, 0xBF)
  else if b = 0xF0 then some (3, 0x90, 0xBF)
  else if b = 0xF4 then some (3, 0x80, 0x8F)
  else if 0xF1 ≤ b ∧ b ≤ 0xF3 then some (3, 0x80, 0xBF)
  else none

/-- How many octets make up the fault that a sequence starts with; nothing when
    the sequence ends inside a character that is good so far. -/
def strayLength? : Octets → Option Nat
  | [] => none
  | b :: rest =>
    match following? b with
    | none => some 1
    | some (more, low, high) =>
      match rest with
      | [] => none
      | c :: rest =>
        if c < low ∨ high < c then some 1
        else
          let good := (rest.take (more - 1)).takeWhile isContinuation
          if good.length = rest.length then none else some (2 + good.length)

/-- The wording of the first fault of a sequence. -/
def strayMessage (bs : Octets) : String :=
  let place := strayAt bs
  match strayLength? (bs.drop place) with
  | some n =>
    "invalid utf-8 sequence of " ++ toString n ++ " bytes from index " ++ toString place
  | none => "incomplete utf-8 byte sequence from index " ++ toString place

end Text
end Rulebook

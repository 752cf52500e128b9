import Rulebook.Text.Octets

/-!
# Percent Encoding

An octet of a path may be written as a percent sign and two hexadecimal digits.
Decoding goes from left to right, once; a percent sign without two digits behind
it stands for itself.

## Main definitions

* `percentDecode`: The octets that a path segment stands for.
* `percentOctet`: The written form of an octet.

## Theorems

* `percentDecode_percentOctet`: Written octets are read back.
-/

namespace Rulebook
namespace Http

open Text (Octets)

/-- The value of a hexadecimal digit, in letters of either case. -/
def hexValue? (b : UInt8) : Option UInt8 :=
  if 0x30 ≤ b && b ≤ 0x39 then some (b - 0x30)
  else if 0x61 ≤ b && b ≤ 0x66 then some (b - 0x57)
  else if 0x41 ≤ b && b ≤ 0x46 then some (b - 0x37)
  else none

/-- The octets that a path segment stands for. -/
def percentDecode : Octets → Octets
  | 0x25 :: a :: b :: rest =>
    match hexValue? a, hexValue? b with
    | some high, some low => (high * 16 + low) :: percentDecode rest
    | _, _ => 0x25 :: percentDecode (a :: b :: rest)
  | b :: rest => b :: percentDecode rest
  | [] => []

/-- The small hexadecimal digit of a number below sixteen. -/
def hexOctet (n : UInt8) : UInt8 :=
  if n < 10 then 0x30 + n else 0x57 + n

/-- The written form of an octet. -/
def percentOctet (b : UInt8) : Octets :=
  [0x25, hexOctet (b / 16), hexOctet (b % 16)]

-- Hexadecimal digits are read back.
theorem hexValue?_hexOctet {n : UInt8} (h : n < 16) : hexValue? (hexOctet n) = some n := by
  revert h
  exact Text.forall_octet (p := fun n => n < 16 → hexValue? (hexOctet n) = some n)
    (by decide +kernel) n

-- An octet is made up of two hexadecimal digits.
theorem halves (b : UInt8) : b / 16 < 16 ∧ b % 16 < 16 ∧ b / 16 * 16 + b % 16 = b :=
  Text.forall_octet (p := fun b => b / 16 < 16 ∧ b % 16 < 16 ∧ b / 16 * 16 + b % 16 = b)
    (by decide +kernel) b

/-- Written octets are read back. -/
theorem percentDecode_percentOctet (b : UInt8) (rest : Octets) :
    percentDecode (percentOctet b ++ rest) = b :: percentDecode rest := by
  obtain ⟨high, low, whole⟩ := halves b
  simp [percentOctet, percentDecode, hexValue?_hexOctet high, hexValue?_hexOctet low, whole]

end Http
end Rulebook

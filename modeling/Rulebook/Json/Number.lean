import Rulebook.Json.Fault

/-!
# Numbers inside JSON

No member of a rule is a number, so a number is read only to be named in a
refusal, and there it matters which number it is. Digits are gathered while they
fit into sixty-four bits; those that do not fit are counted, not kept. A number
without point and exponent that fits is whole; any other is a binary fraction,
scaled by powers of ten, and refused where it would be infinite.

A number inside a value that nobody asked for is checked for its form alone.

## Main definitions

* `takeDigits`: The digits in front of a text.
* `gather`: A number extended by digits while it fits.
* `readNumber`: Reads a number as a whole number or a fraction.
* `skipDigits`: Checks a number for its form alone.

## Theorems

* `takeDigits_append`: Taking the digits apart loses nothing.
-/

namespace Rulebook
namespace Json

open Text (Octets)

/-- Whether an octet is a decimal digit. -/
def isDigit (b : UInt8) : Bool :=
  0x30 ≤ b && b ≤ 0x39

/-- The digits in front of a text, and what follows them. -/
def takeDigits (bs : Octets) : Octets × Octets :=
  (bs.takeWhile isDigit, bs.dropWhile isDigit)

/-- Taking the digits apart loses nothing. -/
theorem takeDigits_append (bs : Octets) : (takeDigits bs).1 ++ (takeDigits bs).2 = bs := by
  simp [takeDigits, List.takeWhile_append_dropWhile]

/-- The least number that does not fit into sixty-four bits. -/
def wordLimit : Nat := 18446744073709551616

/-- Extends a number by digits while it fits into sixty-four bits; the digits
    from the first that does not fit are returned. -/
def gather : Nat → Octets → Nat × Octets
  | n, [] => (n, [])
  | n, d :: rest =>
    let m := n * 10 + (d.toNat - 0x30)
    if m < wordLimit then gather m rest else (n, d :: rest)

/-- A power of ten as a float. -/
def powerOfTen (n : Nat) : Float :=
  Float.ofScientific 1 false n

/-- A float times a power of ten; nothing when the product is too large. A very
    small power is applied in two steps, or more where the number allows it. -/
def scale : (steps : Nat) → Float → Int → Option Float
  | 0, x, _ => some x
  | steps + 1, x, power =>
    if power.natAbs ≤ 308 then
      if 0 ≤ power then
        let y := x * powerOfTen power.natAbs
        if y.isInf then none else some y
      else some (x / powerOfTen power.natAbs)
    else if x == 0 then some x
    else if 0 ≤ power then none
    else scale steps (x / powerOfTen 308) (power + 308)

/-- A fraction from its digits and a power of ten. -/
def fractionOf (negative : Bool) (digits : Nat) (power : Int) (rest : Octets) :
    Except Fault (Found × Octets) :=
  match scale 8 digits.toUInt64.toFloat power with
  | none => faultAt .numberTooLarge rest
  | some x => .ok (.fraction (if negative then -x else x), rest)

/-- The largest exponent that is kept. -/
def largestExponent : Nat := 2147483647

/-- Extends an exponent by digits; where it grows too large, the digits behind
    the one that made it so. -/
def gatherExponent : Nat → Octets → Except Octets Nat
  | n, [] => .ok n
  | n, d :: rest =>
    let m := n * 10 + (d.toNat - 0x30)
    if m ≤ largestExponent then gatherExponent m rest else .error rest

/-- The sign in front of an exponent, and what follows it. -/
def exponentSign : Octets → Bool × Octets
  | 0x2B :: rest => (false, rest)
  | 0x2D :: rest => (true, rest)
  | bs => (false, bs)

/-- Reads the exponent of a fraction, of which the letter has been read. -/
def readExponent (negative : Bool) (digits : Nat) (power : Int) (bs : Octets) :
    Except Fault (Found × Octets) :=
  let (down, bs) := exponentSign bs
  match bs with
  | [] => faultAt .endInValue []
  | d :: rest =>
    if isDigit d then
      let (ds, rest) := takeDigits rest
      match gatherExponent (d.toNat - 0x30) ds with
      | .ok e => fractionOf negative digits (if down then power - e else power + e) rest
      | .error unread =>
        if digits ≠ 0 ∧ ¬ down then faultAt .numberTooLarge (unread ++ rest)
        else .ok (.fraction (if negative then -0.0 else 0.0), rest)
    else faultAt .badNumber rest

/-- Reads what may follow the digits of a fraction: an exponent. -/
def readTail (negative : Bool) (digits : Nat) (power : Int) (bs : Octets) :
    Except Fault (Found × Octets) :=
  match bs with
  | 0x65 :: rest | 0x45 :: rest => readExponent negative digits power rest
  | rest => fractionOf negative digits power rest

/-- Reads the digits behind the point, which has been read. -/
def readDecimals (negative : Bool) (digits : Nat) (power : Int) (bs : Octets) :
    Except Fault (Found × Octets) :=
  let (ds, rest) := takeDigits bs
  match ds with
  | [] => if rest.isEmpty then faultAt .endInValue [] else faultOver .badNumber rest
  | _ :: _ =>
    let (n, dropped) := gather digits ds
    readTail negative n (power - (ds.length - dropped.length : Nat)) rest

/-- Reads a number from its first digit on. -/
def readDigits (negative : Bool) : Read Found
  | [] => faultAt .endInValue []
  | first :: rest =>
    if isDigit first then
      let (ds, rest) := takeDigits rest
      if first = 0x30 ∧ ds ≠ [] then faultOver .badNumber (ds ++ rest)
      else
        let (n, dropped) := gather (first.toNat - 0x30) ds
        match rest with
        | 0x2E :: rest => readDecimals negative n dropped.length rest
        | 0x65 :: _ | 0x45 :: _ => readTail negative n dropped.length rest
        | rest =>
          if dropped ≠ [] then fractionOf negative n dropped.length rest
          else if negative then
            if n = 0 ∨ wordLimit < 2 * n then .ok (.fraction (-n.toUInt64.toFloat), rest)
            else .ok (.int (-n), rest)
          else .ok (.int n, rest)
    else faultAt .badNumber rest

/-- Reads a number, with the minus it may start with. -/
def readNumber : Read Found
  | 0x2D :: rest => readDigits true rest
  | bs => readDigits false bs

/-- Checks the exponent of a number, of which the letter has been read. -/
def skipExponent (bs : Octets) : Except Fault Octets :=
  match (exponentSign bs).2 with
  | [] => faultAt .badNumber []
  | d :: rest => if isDigit d then .ok (takeDigits rest).2 else faultAt .badNumber rest

/-- Checks what may follow the whole digits of a number: point and exponent. -/
def skipTail : Octets → Except Fault Octets
  | 0x2E :: rest =>
    match takeDigits rest with
    | ([], rest) => faultOver .badNumber rest
    | (_ :: _, 0x65 :: rest) | (_ :: _, 0x45 :: rest) => skipExponent rest
    | (_ :: _, rest) => .ok rest
  | 0x65 :: rest | 0x45 :: rest => skipExponent rest
  | rest => .ok rest

/-- Checks a number from its first digit on. -/
def skipDigits : Octets → Except Fault Octets
  | [] => faultAt .badNumber []
  | first :: rest =>
    if first = 0x30 then
      match rest with
      | d :: _ => if isDigit d then faultOver .badNumber rest else skipTail rest
      | [] => .ok []
    else if isDigit first then skipTail (takeDigits rest).2
    else faultAt .badNumber rest

end Json
end Rulebook

import Rulebook.Decimal.Digits

/-!
# Shortest Decimals

A binary fraction that a caller sent by mistake is shown back with the fewest
digits that still read as the same fraction. The search is done on the decimal
grids of one, two, three and more digits: of each grid only the two points next
to the value can lie in the interval of numbers that round to it, so each grid
is tested at these two, in whole numbers throughout.

## Main definitions

* `Fraction`: A positive binary fraction as a whole number times a power of two.
* `Fraction.interval`: The numbers that round to it, over a common denominator.
* `Fraction.shortest`: Its shortest digits and the place of the decimal point.
* `FractionFormat`, `render`: How digits and point are laid out.
-/

namespace Rulebook
namespace Decimal

/-- The positive number `mantissa · 2 ^ exponent`; `wideBelow` says that the gap
    to the next smaller fraction is as wide as the gap to the next larger one. -/
structure Fraction where
  mantissa : Nat
  exponent : Int
  wideBelow : Bool
  deriving Repr

/-- Whole numbers `value`, `low`, `high` over a common `denominator`: a fraction
    and the two ends of the interval that rounds to it. -/
structure Interval where
  value : Nat
  low : Nat
  high : Nat
  denominator : Nat
  ends : Bool
  deriving Repr

namespace Fraction

/-- The bits of a float below its sign. -/
def magnitudeBits (bits : UInt64) : Nat :=
  bits.toNat % 0x8000000000000000

/-- What the highest bit of a mantissa counts for, which is not stored. -/
def hiddenBit : Nat := 0x10000000000000

/-- The magnitude of a finite float that is not zero. -/
def ofBits (bits : UInt64) : Fraction :=
  let stored := magnitudeBits bits / hiddenBit
  let low := magnitudeBits bits % hiddenBit
  if stored = 0 then ⟨low, -1074, true⟩
  else ⟨hiddenBit + low, (stored : Int) - 1075, low ≠ 0 || stored = 1⟩

/-- The numbers that round to a fraction: half a gap on each side. The ends
    belong to it when the mantissa is even. -/
def interval (f : Fraction) : Interval :=
  let up := 1 <<< f.exponent.toNat
  let down := 1 <<< (-f.exponent).toNat
  let value := 4 * f.mantissa * up
  { value := value
    low := value - (if f.wideBelow then 2 else 1) * up
    high := value + 2 * up
    denominator := 4 * down
    ends := f.mantissa % 2 = 0 }

end Fraction

namespace Interval

/-- Whether the decimal `digits · 10 ^ place` lies in the interval. -/
def holds (i : Interval) (digits : Nat) (place : Int) : Bool :=
  let point := digits * powerOfTen place.toNat * i.denominator
  let scale := powerOfTen (-place).toNat
  if i.ends then i.low * scale ≤ point && point ≤ i.high * scale
  else i.low * scale < point && point < i.high * scale

/-- The number of digits in front of the decimal point: the least `k` with
    `value < 10 ^ k`, which is negative for a value below a tenth. -/
def magnitude (i : Interval) : Int :=
  if i.denominator ≤ i.value then
    ((Nat.toDigits 10 (i.value / i.denominator)).length : Int)
  else
    match (List.range 400).find? fun j => i.denominator ≤ i.value * powerOfTen (j + 1) with
    | some j => -(j : Int)
    | none => -400

/-- The point of the grid `10 ^ place` next to the value that lies in the
    interval; of two such points the nearer, of two equally near the even one. -/
def nearest? (i : Interval) (place : Int) : Option Nat :=
  let numerator := i.value * powerOfTen (-place).toNat
  let divisor := i.denominator * powerOfTen place.toNat
  let below := numerator / divisor
  let remainder := numerator % divisor
  match i.holds below place, i.holds (below + 1) place with
  | false, false => none
  | true, false => some below
  | false, true => some (below + 1)
  | true, true =>
    if 2 * remainder < divisor then some below
    else if divisor < 2 * remainder then some (below + 1)
    else if below % 2 = 0 then some below else some (below + 1)

end Interval

/-- Digits without zeros at the end. -/
def trimZeros (cs : List Char) : List Char :=
  (cs.reverse.dropWhile (· = '0')).reverse

/-- The shortest digits of a fraction, and the power of ten of the first one.
    Seventeen digits always suffice. -/
def Fraction.shortest (f : Fraction) : List Char × Int :=
  let i := f.interval
  let k := i.magnitude
  let found := (List.range 17).findSome? fun (n : Nat) =>
    let place := k - ((n : Int) + 1)
    (i.nearest? place).map fun d => (d, place)
  let (d, place) := found.getD (0, 0)
  let digits := Nat.toDigits 10 d
  (trimZeros digits, place + digits.length - 1)

/-- Which powers of ten are written with a plain decimal point. -/
structure FractionFormat where
  leastPlain : Int
  mostPlain : Int

/-- Digits and the power of ten of the first one, as text. A plain number has
    at least one digit on each side of its point; any other is written with one
    digit in front of the point and a signed power of ten. -/
def render (format : FractionFormat) (digits : List Char) (power : Int) : List Char :=
  if format.leastPlain ≤ power ∧ power ≤ format.mostPlain then
    if power < 0 then
      ['0', '.'] ++ List.replicate (-power - 1).toNat '0' ++ digits
    else
      let whole := power.toNat + 1
      let padding := List.replicate (whole - digits.length) '0'
      let fraction := digits.drop whole
      digits.take whole ++ padding ++ '.' :: (if fraction.isEmpty then ['0'] else fraction)
  else
    let tail := digits.drop 1
    digits.take 1 ++ (if tail.isEmpty then [] else '.' :: tail) ++
      ['e', if power < 0 then '-' else '+'] ++ Nat.toDigits 10 power.natAbs

/-- A number is shown plainly from one hundred thousandth up to, but not
    including, ten million thousand millions. -/
def shown : FractionFormat := ⟨-5, 15⟩

/-- The text of a finite float. -/
def floatText (x : Float) : String :=
  let bits := x.toBits
  let sign := if bits.toNat = Fraction.magnitudeBits bits then [] else ['-']
  let magnitude :=
    if Fraction.magnitudeBits bits = 0 then ['0', '.', '0']
    else
      let (digits, power) := (Fraction.ofBits bits).shortest
      render shown digits power
  String.ofList (sign ++ magnitude)

end Decimal
end Rulebook

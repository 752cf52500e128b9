import Rulebook.Decimal.Digits
import Rulebook.Instant
import Rulebook.Instant.Calendar

/-!
# Writing Instants

The one written form of an instant: date, `T`, time of day, a fraction of three,
six or nine digits where it is needed, and `Z`. A leap second is written as the
sixtieth second of its minute. A year outside the four-digit range carries its
sign.

## Main definitions

* `Instant.yearText`: A year, with a sign where it needs one.
* `Instant.fractionText`: The shortest exact fraction in groups of three digits.
* `Instant.chars`, `Instant.text`: The written form.
-/

namespace Rulebook
namespace Instant

/-- The day of 1970-01-01 in the count of the calendar. -/
def epochDay : Int := 719528

/-- A year in at least four digits, with a sign outside the years 0 to 9999. -/
def yearText (year : Int) : List Char :=
  if 0 ≤ year ∧ year ≤ 9999 then Decimal.fixed 4 year.toNat
  else (if year < 0 then '-' else '+') :: Decimal.padded 4 year.natAbs

/-- A fraction of a second in the fewest groups of three digits that are exact;
    nothing when there is no fraction. -/
def fractionText (nanos : Nat) : List Char :=
  if nanos = 0 then []
  else if nanos % 1000000 = 0 then '.' :: Decimal.fixed 3 (nanos / 1000000)
  else if nanos % 1000 = 0 then '.' :: Decimal.fixed 6 (nanos / 1000)
  else '.' :: Decimal.fixed 9 nanos

/-- The calendar date of an instant. -/
def date (a : Instant) : Calendar.Date :=
  Calendar.Date.ofDay (a.seconds / 86400 + epochDay)

/-- The written form of an instant, as characters. -/
def chars (a : Instant) : List Char :=
  let d := a.date
  let clock := (a.seconds % 86400).toNat
  let carry := a.nanos / 1000000000
  yearText d.year ++ '-' :: Decimal.fixed 2 d.month ++ '-' :: Decimal.fixed 2 d.day ++
    'T' :: Decimal.fixed 2 (clock / 3600) ++ ':' :: Decimal.fixed 2 (clock / 60 % 60) ++
    ':' :: Decimal.fixed 2 (clock % 60 + carry) ++
    fractionText (a.nanos % 1000000000) ++ ['Z']

/-- The written form of an instant. -/
def text (a : Instant) : String :=
  String.ofList a.chars

end Instant
end Rulebook

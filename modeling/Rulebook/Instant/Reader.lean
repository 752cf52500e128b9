import Rulebook.Decimal.Digits
import Rulebook.Instant
import Rulebook.Instant.Calendar
import Rulebook.Instant.Printer
import Rulebook.Text.Blank

/-!
# Reading Instants

Callers write times in more ways than the service does. The reader takes dates
and times with short fields, blanks between the parts, any offset from UTC, and
a sixtieth second anywhere; it drops digits below the nanosecond. It refuses in
five ways, and the first fault from the left decides.

## Main definitions

* `TimeFault`: The five refusals, with `TimeFault.message`.
* `Instant.readNumber`, `Instant.readOffset`: Parts of a written time.
* `Instant.Parts`: The numbers a written time consists of.
* `Instant.read`: Reads an instant.
-/

namespace Rulebook

/-- Why a text is no instant. -/
inductive TimeFault where
  /-- The text ends early. -/
  | tooShort
  /-- A character is out of place. -/
  | invalid
  /-- A number is too large for its part, or the date is not in the calendar. -/
  | outOfRange
  /-- Something follows the time. -/
  | trailing
  /-- The offset moves the time off the calendar. -/
  | impossible
  deriving DecidableEq, Repr

/-- The wording of a refusal. -/
def TimeFault.message : TimeFault → String
  | .tooShort => "premature end of input"
  | .invalid => "input contains invalid characters"
  | .outOfRange => "input is out of range"
  | .trailing => "trailing input"
  | .impossible => "no possible date and time matching input"

namespace Instant

/-- A reader of the front of a text. -/
abbrev Read (α : Type) := List Char → Except TimeFault (α × List Char)

/-- The largest number that a written part may have. -/
def largestNumber : Nat := 9223372036854775807

/-- Reads digits into a number, at most as many as `most` says where it says
    anything. -/
def readDigits : (most : Option Nat) → (value : Nat) → Read Nat
  | some 0, value, cs => .ok (value, cs)
  | _, value, [] => .ok (value, [])
  | most, value, c :: rest =>
    match Decimal.digitValue? c with
    | none => .ok (value, c :: rest)
    | some d =>
      if largestNumber < 10 * value + d then .error .outOfRange
      else readDigits (most.map (· - 1)) (10 * value + d) rest

/-- Reads a number of at least one digit. -/
def readNumber (most : Option Nat) : Read Nat
  | [] => .error .tooShort
  | c :: rest =>
    if Decimal.isDigit c then readDigits most 0 (c :: rest) else .error .invalid

/-- Reads a part of two digits at most, blanks in front of it, inside bounds. -/
def readField (low high : Nat) : Read Nat := fun cs => do
  let (n, rest) ← readNumber (some 2) (Text.trimStart cs)
  if low ≤ n ∧ n ≤ high then .ok (n, rest) else .error .outOfRange

/-- Reads a mark between two parts, blanks in front of it. -/
def readMark (mark : Char) : Read Unit := fun cs =>
  match Text.trimStart cs with
  | [] => .error .tooShort
  | c :: rest => if c = mark then .ok ((), rest) else .error .invalid

/-- Reads a year: four digits at most without a sign, any number with one. -/
def readYear : Read Int := fun cs => do
  let (year, rest) ←
    match Text.trimStart cs with
    | '-' :: rest => (readNumber none rest).map fun (n, rest) => (-(n : Int), rest)
    | '+' :: rest => (readNumber none rest).map fun (n, rest) => ((n : Int), rest)
    | cs => (readNumber (some 4) cs).map fun (n, rest) => ((n : Int), rest)
  if -2147483648 ≤ year ∧ year ≤ 2147483647 then .ok (year, rest) else .error .outOfRange

/-- Reads what stands between date and time: one `T`, or one space. -/
def readSeparator : Read Unit
  | [] => .error .tooShort
  | c :: rest => if c = 'T' ∨ c = 't' ∨ c = ' ' then .ok ((), rest) else .error .invalid

/-- Reads a fraction of a second in nanoseconds, where there is one. Digits
    behind the ninth are dropped. -/
def readFraction : Read Nat
  | '.' :: rest => do
    let (n, tail) ← readNumber (some 9) rest
    .ok (n * Decimal.powerOfTen (9 - (rest.length - tail.length)), tail.dropWhile Decimal.isDigit)
  | cs => .ok (0, cs)

/-- Reads two digits, each within bounds. A digit too large for the first place
    is out of range only where the second place holds a digit. -/
def readPair (firstHigh : Nat) : Read Nat
  | [] => .error .tooShort
  | [c] => if c.toNat < 128 then .error .tooShort else .error .invalid
  | a :: b :: rest =>
    match Decimal.digitValue? a, Decimal.digitValue? b with
    | some x, some y => if x ≤ firstHigh then .ok (10 * x + y, rest) else .error .outOfRange
    | _, _ => .error .invalid

/-- Reads an offset from UTC, in seconds: `Z`, `UTC`, or hours and minutes with
    a sign, with colons or blanks between the two. -/
def readOffset : Read Int := fun cs =>
  match cs with
  | 'Z' :: rest | 'z' :: rest => .ok (0, rest)
  | [] => .error .tooShort
  | c :: rest =>
    if (cs.take 3).map Char.toUpper = ['U', 'T', 'C'] then .ok (0, cs.drop 3)
    else if c = '+' ∨ c = '-' ∨ c = Char.ofNat 0x2212 then do
      let (hours, rest) ← readPair 9 rest
      let rest := rest.dropWhile fun d => d = ':' || Text.isBlank d
      let (minutes, rest) ← readPair 5 rest
      let offset : Int := hours * 3600 + minutes * 60
      .ok (if c = '+' then offset else -offset, rest)
    else .error .invalid

/-- The numbers of a written time. -/
structure Parts where
  date : Calendar.Date
  hour : Nat
  minute : Nat
  /-- The second as written, at most 60. -/
  second : Nat
  nanos : Nat
  /-- Seconds that local time is ahead of UTC. -/
  offset : Int

/-- Reads the numbers of a written time, up to the end of the text. -/
def readParts (cs : List Char) : Except TimeFault Parts := do
  let (year, cs) ← readYear cs
  let (_, cs) ← readMark '-' cs
  let (month, cs) ← readField 1 12 cs
  let (_, cs) ← readMark '-' cs
  let (day, cs) ← readField 1 31 cs
  let (_, cs) ← readSeparator cs
  let (hour, cs) ← readField 0 23 cs
  let (_, cs) ← readMark ':' cs
  let (minute, cs) ← readField 0 59 cs
  let (_, cs) ← readMark ':' cs
  let (second, cs) ← readField 0 60 cs
  let (nanos, cs) ← readFraction cs
  let (offset, cs) ← readOffset (Text.trimStart cs)
  if Text.trimStart cs = [] then
    .ok ⟨⟨year, month, day⟩, hour, minute, second, nanos, offset⟩
  else .error .trailing

/-- The first and last day of the calendar. -/
def calendarDays : Int × Int :=
  (calendarStart / 86400 + epochDay, calendarEnd / 86400 + epochDay)

/-- The instant that a written time means. A sixtieth second is the leap second
    behind the fifty-ninth. -/
def ofParts (p : Parts) : Except TimeFault Instant :=
  match p.date.toDay? with
  | none => .error .outOfRange
  | some day =>
    if day < calendarDays.1 ∨ calendarDays.2 < day then .error .outOfRange
    else if 86400 ≤ p.offset.natAbs then .error .outOfRange
    else
      let (second, leap) := if p.second = 60 then (59, 1000000000) else (p.second, 0)
      let clock : Int := p.hour * 3600 + p.minute * 60 + second
      match of? ((day - epochDay) * 86400 + clock - p.offset) (p.nanos + leap) with
      | none => .error .impossible
      | some a => .ok a

/-- Reads an instant. -/
def read (s : String) : Except TimeFault Instant :=
  readParts s.toList >>= ofParts

end Instant
end Rulebook

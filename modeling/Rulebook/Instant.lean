/-!
# Instants

A point of time in UTC, to the nanosecond, as the whole seconds since the start
of 1970 together with a part of a second. In the last second of a minute the
part may run on for another second: that is how a leap second is told. The
calendar ends, in both directions, with the years -262143 and 262142.

Stored times are kept at whole microseconds. `floorMicros` cuts an instant down
to one, toward the past, and it never leaves the second it is in, so it cannot
fall off either end of the calendar.

## Main definitions

* `Instant`: Seconds and a part of a second.
* `Instant.of?`: The instant with given parts, where there is one.
* `Instant.floorMicros`: The last whole microsecond not after an instant.
* `Instant.later`: The later of two instants.

## Theorems

* `floorMicros_le`, `isWhole_floorMicros`: The cut is a whole microsecond that
  is not later.
* `later_eq_left_or_right`, `le_later_left`, `le_later_right`: The later of two
  instants is one of them and not before either.
-/

namespace Rulebook

/-- The first second of the calendar, counted from the start of 1970. -/
def calendarStart : Int := -8334601228800

/-- The last second of the calendar. -/
def calendarEnd : Int := 8210266876799

/-- A point of time in UTC. -/
structure Instant where
  /-- Whole seconds since the start of 1970. -/
  seconds : Int
  /-- Nanoseconds into the second; a billion and more inside a leap second. -/
  nanos : Nat
  notBefore : calendarStart ≤ seconds
  notAfter : seconds ≤ calendarEnd
  /-- Only the last second of a minute may be followed by a leap second. -/
  nanosFit : nanos < 1000000000 ∨ nanos < 2000000000 ∧ seconds % 60 = 59
  deriving DecidableEq

namespace Instant

-- Two instants with the same parts are one.
@[ext] theorem ext_parts {a b : Instant} (hs : a.seconds = b.seconds) (hn : a.nanos = b.nanos) :
    a = b := by
  cases a
  cases b
  simp_all

/-- The instant with the given parts, where there is one. -/
def of? (seconds : Int) (nanos : Nat) : Option Instant :=
  if h : calendarStart ≤ seconds ∧ seconds ≤ calendarEnd ∧
      (nanos < 1000000000 ∨ nanos < 2000000000 ∧ seconds % 60 = 59) then
    some ⟨seconds, nanos, h.1, h.2.1, h.2.2⟩
  else none

/-- Instants are ordered by their seconds, then by the part of the second. -/
instance : LE Instant :=
  ⟨fun a b => a.seconds < b.seconds ∨ a.seconds = b.seconds ∧ a.nanos ≤ b.nanos⟩

-- The order of two instants, on their parts.
theorem le_def {a b : Instant} :
    a ≤ b ↔ a.seconds < b.seconds ∨ a.seconds = b.seconds ∧ a.nanos ≤ b.nanos :=
  Iff.rfl

instance (a b : Instant) : Decidable (a ≤ b) :=
  inferInstanceAs (Decidable (_ ∨ _))

-- An instant is not later than itself.
theorem le_refl (a : Instant) : a ≤ a := by
  simp [le_def]

-- The order is transitive.
theorem le_trans {a b c : Instant} (hab : a ≤ b) (hbc : b ≤ c) : a ≤ c := by
  simp only [le_def] at *
  omega

-- Of two instants one is not later than the other.
theorem le_total (a b : Instant) : a ≤ b ∨ b ≤ a := by
  simp only [le_def]
  omega

-- Two instants that are not later than each other are one.
theorem le_antisymm {a b : Instant} (hab : a ≤ b) (hba : b ≤ a) : a = b := by
  simp only [le_def] at *
  apply ext_parts <;> omega

/-- The later of two instants. -/
def later (a b : Instant) : Instant :=
  if a ≤ b then b else a

/-- The later of two instants is one of them. -/
theorem later_eq_left_or_right (a b : Instant) : later a b = a ∨ later a b = b := by
  unfold later
  split <;> simp

/-- The later of two instants is not before the first. -/
theorem le_later_left (a b : Instant) : a ≤ later a b := by
  unfold later
  split
  · assumption
  · exact le_refl a

/-- The later of two instants is not before the second. -/
theorem le_later_right (a b : Instant) : b ≤ later a b := by
  unfold later
  split
  · exact le_refl b
  · exact (le_total a b).resolve_left (by assumption)

/-- Whether an instant is a whole microsecond. -/
def isWhole (a : Instant) : Bool :=
  a.nanos % 1000 = 0

/-- The last whole microsecond not after an instant. A leap second stays a leap
    second. -/
def floorMicros (a : Instant) : Instant where
  seconds := a.seconds
  nanos := a.nanos - a.nanos % 1000
  notBefore := a.notBefore
  notAfter := a.notAfter
  nanosFit := by
    have := a.nanosFit
    omega

/-- The cut is a whole microsecond. -/
@[simp] theorem isWhole_floorMicros (a : Instant) : a.floorMicros.isWhole = true := by
  have h : a.floorMicros.nanos = a.nanos - a.nanos % 1000 := rfl
  have : a.floorMicros.nanos % 1000 = 0 := by omega
  simp [isWhole, this]

/-- The cut is not later. -/
theorem floorMicros_le (a : Instant) : a.floorMicros ≤ a := by
  have hs : a.floorMicros.seconds = a.seconds := rfl
  have hn : a.floorMicros.nanos = a.nanos - a.nanos % 1000 := rfl
  simp only [le_def]
  omega

end Instant
end Rulebook

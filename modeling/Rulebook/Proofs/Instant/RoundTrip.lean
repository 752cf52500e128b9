import Rulebook.Proofs.Instant.Calendar
import Rulebook.Proofs.Instant.Parts

/-!
# Instants Are Read Back

The reader takes more than the writer puts down, but what the writer puts down
it reads as the instant that was meant: of any year of the calendar, before 1970
as after it, with any fraction, and inside a leap second.

A leap second is the delicate case. It is written as second 60, which the reader
takes for the fifty-ninth with a billion nanoseconds on top; that this is the
instant that was written rests on leap seconds standing only at the end of a
minute, which the type of instants sees to.

## Theorems

* `readParts_written`: The parts of a written time are read back.
* `year_bounds`: The years of the calendar fit into what the reader takes.
* `ofParts_date`: The parts of an instant make up that instant.
* `read_text`: An instant is read back.
* `text_injective`: No two instants are written alike.
-/

namespace Rulebook

namespace Instant

open Decimal (fixed)

/-- The parts of a written time are read back. -/
theorem readParts_written (year : Int) (month day hour minute second nanos : Nat)
    (hyear : -2147483648 ≤ year ∧ year ≤ 2147483647) (hmonth : 1 ≤ month ∧ month ≤ 12)
    (hday : 1 ≤ day ∧ day ≤ 31) (hhour : hour ≤ 23) (hminute : minute ≤ 59)
    (hsecond : second ≤ 60) (hnanos : nanos < 1000000000) :
    readParts (yearText year ++ '-' :: (fixed 2 month ++ '-' :: (fixed 2 day ++
      'T' :: (fixed 2 hour ++ ':' :: (fixed 2 minute ++ ':' :: (fixed 2 second ++
        (fractionText nanos ++ ['Z']))))))) =
      .ok ⟨⟨year, month, day⟩, hour, minute, second, nanos, 0⟩ := by
  have hdash : Unextended ('-' :: (fixed 2 month ++ '-' :: (fixed 2 day ++
      'T' :: (fixed 2 hour ++ ':' :: (fixed 2 minute ++ ':' :: (fixed 2 second ++
        (fractionText nanos ++ ['Z']))))))) := unextended_cons (by decide)
  have hzone : readFraction (fractionText nanos ++ ['Z']) = .ok (nanos, ['Z']) := by
    refine readFraction_fractionText hnanos (unextended_cons (by decide)) ?_
    intro tail heq
    exact absurd (List.cons.inj heq).1 (by decide)
  -- From left to right: each field is read up to the mark behind it.
  unfold readParts
  rw [readYear_yearText hyear.1 hyear.2 hdash]
  simp only [bind, Except.bind]
  rw [readMark_cons (by decide)]
  simp only
  rw [readField_fixed hmonth.1 hmonth.2 (by omega)]
  simp only
  rw [readMark_cons (by decide)]
  simp only
  rw [readField_fixed hday.1 hday.2 (by omega)]
  simp only [readSeparator, true_or, if_true]
  rw [readField_fixed (Nat.zero_le hour) hhour (by omega)]
  simp only
  rw [readMark_cons (by decide)]
  simp only
  rw [readField_fixed (Nat.zero_le minute) hminute (by omega)]
  simp only
  rw [readMark_cons (by decide)]
  simp only
  rw [readField_fixed (Nat.zero_le second) hsecond (by omega)]
  simp only
  rw [hzone]
  rfl

/-- The years of the calendar fit into what the reader takes. -/
theorem year_bounds (a : Instant) : -2147483648 ≤ a.date.year ∧ a.date.year ≤ 2147483647 := by
  -- The days in front of a year and of the next one hold it between them.
  have hlow := Calendar.daysBefore_yearOf_le (a.seconds / 86400 + epochDay)
  have hhigh := Calendar.lt_daysBefore_yearOf_succ (a.seconds / 86400 + epochDay)
  have hstart := a.notBefore
  have hend := a.notAfter
  unfold calendarStart at hstart
  unfold calendarEnd at hend
  unfold Calendar.daysBefore at hlow hhigh
  unfold epochDay at hlow hhigh
  simp only [date, Calendar.Date.ofDay, epochDay]
  omega

/-- The parts of an instant make up that instant. -/
theorem ofParts_date (a : Instant) :
    ofParts ⟨a.date, (a.seconds % 86400).toNat / 3600, (a.seconds % 86400).toNat / 60 % 60,
      (a.seconds % 86400).toNat % 60 + a.nanos / 1000000000, a.nanos % 1000000000, 0⟩ = .ok a := by
  have hstart := a.notBefore
  have hend := a.notAfter
  have hfit := a.nanosFit
  have hday : a.date.toDay? = some (a.seconds / 86400 + epochDay) := Calendar.toDay?_ofDay _
  have hcalendar : ¬ (a.seconds / 86400 + epochDay < calendarDays.1 ∨
      calendarDays.2 < a.seconds / 86400 + epochDay) := by
    unfold calendarDays
    simp only
    omega
  unfold ofParts
  simp only [hday]
  rw [if_neg hcalendar, if_neg (by decide)]
  by_cases hleap : a.nanos < 1000000000
  · -- The second is written as it is, and is not the sixtieth.
    have hcarry : a.nanos / 1000000000 = 0 := Nat.div_eq_of_lt hleap
    have hsecond : (a.seconds % 86400).toNat % 60 + a.nanos / 1000000000 ≠ 60 := by omega
    rw [if_neg hsecond]
    simp only [of?]
    rw [dif_pos ⟨by omega, by omega, by omega⟩]
    simp only [Except.ok.injEq]
    apply ext_parts
    · simp only
      omega
    · simp only
      omega
  · -- A leap second stands at the end of a minute, and is written as the sixtieth.
    have hsecond : (a.seconds % 86400).toNat % 60 + a.nanos / 1000000000 = 60 := by omega
    rw [if_pos hsecond]
    simp only [of?]
    rw [dif_pos ⟨by omega, by omega, by omega⟩]
    simp only [Except.ok.injEq]
    apply ext_parts
    · simp only
      omega
    · simp only
      omega

/-- An instant is read back. -/
@[simp] theorem read_text (a : Instant) : read a.text = .ok a := by
  have hdate := Calendar.ofDay_bounds (a.seconds / 86400 + epochDay)
  have hfit := a.nanosFit
  have hparts := readParts_written a.date.year a.date.month a.date.day
    ((a.seconds % 86400).toNat / 3600) ((a.seconds % 86400).toNat / 60 % 60)
    ((a.seconds % 86400).toNat % 60 + a.nanos / 1000000000) (a.nanos % 1000000000)
    (year_bounds a) ⟨hdate.1, hdate.2.1⟩ ⟨hdate.2.2.1, hdate.2.2.2⟩
    (by omega) (by omega) (by omega) (by omega)
  unfold read
  rw [text, String.toList_ofList]
  simp only [chars, List.append_assoc, List.cons_append]
  rw [hparts]
  exact ofParts_date a

/-- No two instants are written alike. -/
theorem text_injective {a b : Instant} (h : a.text = b.text) : a = b := by
  have hread := congrArg read h
  rw [read_text, read_text, Except.ok.injEq] at hread
  exact hread

end Instant

end Rulebook

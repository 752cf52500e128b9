import Rulebook.Instant.Calendar

/-!
# Dates and Days

A day becomes a date by a guess at the year and a walk through the months, and a
date becomes a day by a closed formula and a sum. The two are inverse on every
day, of any year: `toDay?_ofDay`.

The walk is followed by `splitDay_spec`, which speaks of any list of lengths and
knows nothing of months; what the calendar adds is that the months of a year
make up the year.

## Theorems

* `splitDay_spec`: A walk through lengths ends inside one of them.
* `daysOfMonths_twelve`: The months of a year make up the year.
* `toDay?_ofDay`: The date of a day has that day.
* `ofDay_bounds`: The parts of a date lie in their ranges.
-/

namespace Rulebook

namespace Calendar

theorem foldl_add (start : Nat) (lengths : List Nat) :
    lengths.foldl (· + ·) start = start + lengths.foldl (· + ·) 0 := by
  induction lengths generalizing start with
  | nil => rfl
  | cons length rest ih =>
    rw [List.foldl_cons, List.foldl_cons, ih (start + length), ih (0 + length)]
    omega

theorem daysOfMonths_succ (length : Nat) (rest : List Nat) (months : Nat) :
    daysOfMonths (length :: rest) (months + 1) = length + daysOfMonths rest months := by
  unfold daysOfMonths
  rw [List.take_succ_cons, List.foldl_cons, foldl_add]
  omega

/-- A walk through lengths ends inside one of them, and what it has passed and
    what is left make up the whole. -/
theorem splitDay_spec (lengths : List Nat) (day : Nat)
    (h : day < daysOfMonths lengths lengths.length) :
    ∃ length, lengths[(splitDay lengths day).1]? = some length ∧
      (splitDay lengths day).2 < length ∧
      daysOfMonths lengths (splitDay lengths day).1 + (splitDay lengths day).2 = day := by
  induction lengths generalizing day with
  | nil => exact absurd h (Nat.not_lt_zero day)
  | cons length rest ih =>
    unfold splitDay
    by_cases hday : day < length
    · -- The day lies in the first length.
      rw [if_pos hday]
      refine ⟨length, rfl, hday, ?_⟩
      exact Nat.zero_add day
    -- It lies behind it, and the walk goes on with the days that are left.
    · rw [if_neg hday]
      rw [List.length_cons, daysOfMonths_succ] at h
      rcases ih (day - length) (by omega) with ⟨l, hget, hlt, hsum⟩
      refine ⟨l, ?_, hlt, ?_⟩
      · rw [List.getElem?_cons_succ]
        exact hget
      · simp only [daysOfMonths_succ]
        omega

/-- The months of a year make up the year. -/
theorem daysOfMonths_twelve (year : Int) :
    daysOfMonths (monthLengths year) 12 = yearLength year := by
  unfold monthLengths yearLength
  by_cases h : isLeap year = true
  · rw [if_pos h, if_pos h]
    rfl
  · rw [if_neg h, if_neg h]
    rfl

theorem monthLength_le {year : Int} {month length : Nat}
    (h : (monthLengths year)[month]? = some length) : length ≤ 31 := by
  have hmem := List.mem_of_getElem? h
  unfold monthLengths at hmem
  by_cases hl : isLeap year = true
  · rw [if_pos hl] at hmem
    simp only [List.mem_cons, List.not_mem_nil, or_false] at hmem
    omega
  · rw [if_neg hl] at hmem
    simp only [List.mem_cons, List.not_mem_nil, or_false] at hmem
    omega

-- Where in its year a day lies.
theorem dayOfYear_lt (day : Int) :
    (day - daysBefore (yearOf day)).toNat <
      daysOfMonths (monthLengths (yearOf day)) (monthLengths (yearOf day)).length := by
  have hlow := daysBefore_yearOf_le day
  have hhigh := lt_daysBefore_yearOf_succ day
  rw [daysBefore_succ] at hhigh
  have hlength : (monthLengths (yearOf day)).length = 12 := rfl
  rw [hlength, daysOfMonths_twelve]
  omega

/-- The date of a day has that day. -/
theorem toDay?_ofDay (day : Int) : (Date.ofDay day).toDay? = some day := by
  rcases splitDay_spec _ _ (dayOfYear_lt day) with ⟨length, hget, hlt, hsum⟩
  have hlow := daysBefore_yearOf_le day
  unfold Date.toDay?
  simp only [Date.ofDay, Nat.add_sub_cancel, hget]
  rw [if_pos ⟨Nat.le_add_left _ _, Nat.le_add_left _ _, hlt⟩, hsum]
  simp only [Option.some.injEq]
  omega

/-- The parts of a date lie in their ranges. -/
theorem ofDay_bounds (day : Int) :
    1 ≤ (Date.ofDay day).month ∧ (Date.ofDay day).month ≤ 12 ∧
      1 ≤ (Date.ofDay day).day ∧ (Date.ofDay day).day ≤ 31 := by
  rcases splitDay_spec _ _ (dayOfYear_lt day) with ⟨length, hget, hlt, -⟩
  have hmonths := (List.getElem?_eq_some_iff.1 hget).1
  have hlength : (monthLengths (yearOf day)).length = 12 := rfl
  have hle := monthLength_le hget
  simp only [Date.ofDay]
  omega

end Calendar

end Rulebook

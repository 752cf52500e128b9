import Mathlib.Order.Bounds.Defs
import Rulebook.Rule

/-!
# Cutting Instants

The times of a rule are cut to whole microseconds, and the cut is a floor: of all whole
microseconds that are not after an instant it takes the last. That is not a matter of
course. An instant before 1970 has a negative count of seconds, and a cut toward zero would
move it forward; inside a leap second the part of the second runs on beyond a billion, and
a cut that reckoned with less would leave the second.

All that a floor has is drawn from `le_floorMicros_iff`: a whole microsecond is not after
the cut exactly if it is not after the instant. That the cut is one instant with itself,
keeps the order and goes through the later of two instants are consequences.

There is another way to see the cut, which is to take the excess off, by the reckoning
with instants that allows for leap seconds. Such a reckoning may run off the calendar.
Between two instants of one second it does not: `move?_eq_some` says so for the first
second of the calendar as for any other, and so the cut is always there.

## Main definitions

* `Instant.shifted`, `Instant.move?`: An instant that is moved by some nanoseconds.
* `Instant.cut?`: An instant without what goes beyond its microseconds.

## Theorems

* `le_floorMicros_iff`: Whole microseconds before the cut are those before the instant.
* `floorMicros_mono`, `floorMicros_floorMicros`, `floorMicros_later`: The cut is monotone,
  idempotent, and goes through the later of two instants.
* `move?_eq_some`: Within one second, instants are moved to each other.
* `cut?_eq_some`: The excess can be taken off, and that is the cut.
* `create_floor`: The times of a new rule are the floor of the reading.
-/

namespace Rulebook

namespace Instant

/-! ## Floor -/

theorem isWhole_iff {t : Instant} : t.isWhole = true ↔ t.nanos % 1000 = 0 := by
  unfold isWhole
  exact decide_eq_true_iff

/-- A whole microsecond is not after the cut exactly if it is not after the instant. -/
theorem le_floorMicros_iff {m t : Instant} (whole : m.isWhole = true) :
    m ≤ t.floorMicros ↔ m ≤ t := by
  have hm := isWhole_iff.1 whole
  have seconds : t.floorMicros.seconds = t.seconds := rfl
  have nanos : t.floorMicros.nanos = t.nanos - t.nanos % 1000 := rfl
  simp only [le_def]
  omega

/-- The cut is the last whole microsecond that is not after an instant. -/
theorem isGreatest_floorMicros (t : Instant) :
    IsGreatest {m : Instant | m.isWhole = true ∧ m ≤ t} t.floorMicros := by
  refine ⟨⟨isWhole_floorMicros t, floorMicros_le t⟩, ?_⟩
  rintro m ⟨whole, before⟩
  exact (le_floorMicros_iff whole).2 before

/-- The cut keeps the order. -/
theorem floorMicros_mono {s t : Instant} (h : s ≤ t) : s.floorMicros ≤ t.floorMicros :=
  (le_floorMicros_iff (isWhole_floorMicros s)).2 (le_trans (floorMicros_le s) h)

/-- What is cut already is not cut again. -/
@[simp] theorem floorMicros_floorMicros (t : Instant) :
    t.floorMicros.floorMicros = t.floorMicros :=
  le_antisymm (floorMicros_le _) ((le_floorMicros_iff (isWhole_floorMicros t)).2 (le_refl _))

/-- The cut of the later of two instants is the later of their cuts. -/
theorem floorMicros_later (s t : Instant) :
    (later s t).floorMicros = later s.floorMicros t.floorMicros := by
  unfold later
  by_cases h : s ≤ t
  · rw [if_pos h, if_pos (floorMicros_mono h)]
  · have back : t.floorMicros ≤ s.floorMicros := floorMicros_mono ((le_total s t).resolve_left h)
    rw [if_neg h]
    by_cases hcut : s.floorMicros ≤ t.floorMicros
    · -- The two are cut to one instant.
      rw [if_pos hcut]
      exact le_antisymm hcut back
    · rw [if_neg hcut]

/-! ## Reckoning -/

/-- Seconds and a part of a second, moved by a number of nanoseconds. By less than a second,
    and not past its end, a leap second is moved as a part of the second that it prolongs.
    A move that leaves it forward starts from the second before, and a move that leaves it
    backward from the second after, so that leap seconds are not counted. -/
def shifted (t : Instant) (span : Int) : Int × Nat :=
  if 1000000000 ≤ t.nanos ∧ -1000000000 < span ∧ span < 1000000000 ∧
      t.nanos + span < 2000000000 then
    (t.seconds, (t.nanos + span).toNat)
  else
    let second :=
      if t.nanos < 1000000000 then t.seconds
      else if 0 < span then t.seconds else t.seconds + 1
    let nanos := (t.nanos % 1000000000 : Nat) + span
    (second + nanos / 1000000000, (nanos % 1000000000).toNat)

/-- An instant that is moved by a number of nanoseconds, if that does not run off the
    calendar. -/
def move? (t : Instant) (span : Int) : Option Instant :=
  of? (t.shifted span).1 (t.shifted span).2

/-- An instant without what goes beyond its whole microseconds, if that can be taken off. -/
def cut? (t : Instant) : Option Instant :=
  if 0 < t.nanos % 1000 then t.move? (-(t.nanos % 1000 : Nat)) else some t

@[simp] theorem of?_parts (t : Instant) : of? t.seconds t.nanos = some t := by
  unfold of?
  rw [dif_pos ⟨t.notBefore, t.notAfter, t.nanosFit⟩]

/-- Within one second, leap or not, two instants are as far apart as their parts say, and
    moving the one by that much leads to the other. -/
theorem move?_eq_some {s t : Instant} (second : s.seconds = t.seconds)
    (leap : 1000000000 ≤ s.nanos ↔ 1000000000 ≤ t.nanos) :
    s.move? (t.nanos - s.nanos) = some t := by
  have hs := s.nanosFit
  have ht := t.nanosFit
  have parts : s.shifted (t.nanos - s.nanos) = (t.seconds, t.nanos) := by
    unfold shifted
    by_cases h : 1000000000 ≤ s.nanos
    · have far := leap.1 h
      rw [if_pos (by omega), second]
      congr 1
      omega
    · have near : t.nanos < 1000000000 := by omega
      have total : (s.nanos % 1000000000 : Nat) + ((t.nanos : Int) - s.nanos) = t.nanos := by omega
      rw [if_neg (by omega), if_pos (by omega), total, second]
      have whole : (t.nanos : Int) / 1000000000 = 0 := by omega
      have part : ((t.nanos : Int) % 1000000000).toNat = t.nanos := by omega
      simp only [whole, part, Int.add_zero]
  rw [move?, parts, of?_parts]

theorem leap_floorMicros_iff (t : Instant) :
    1000000000 ≤ t.floorMicros.nanos ↔ 1000000000 ≤ t.nanos := by
  have nanos : t.floorMicros.nanos = t.nanos - t.nanos % 1000 := rfl
  omega

/-- The excess can always be taken off, and what is left is the cut. -/
theorem cut?_eq_some (t : Instant) : t.cut? = some t.floorMicros := by
  have nanos : t.floorMicros.nanos = t.nanos - t.nanos % 1000 := rfl
  unfold cut?
  by_cases h : 0 < t.nanos % 1000
  · have excess : -((t.nanos % 1000 : Nat) : Int) = t.floorMicros.nanos - t.nanos := by omega
    rw [if_pos h, excess]
    exact move?_eq_some rfl (leap_floorMicros_iff t).symm
  · rw [if_neg h]
    congr 1
    ext
    · rfl
    · omega

end Instant

namespace Rule

/-- Both times of a new rule are the floor of the time that is read, whatever that is. It
    is the last whole microsecond that is not after the reading, lies in the same second,
    be that a leap second or not, and less than a thousand nanoseconds before the reading:
    by so many the two are moved to each other. To take the excess off never runs off the
    calendar.

    Hence what is read and cut already is kept as it is, a later reading does not lead to
    an earlier time, and of two readings the later one leads to the later time. -/
theorem create_floor (id : RuleId) (fields : Fields) (t : Instant) :
    let kept (reading : Instant) : Instant := (create id fields reading).createdAt
    (create id fields t).updatedAt = kept t ∧
      IsGreatest {m : Instant | m.isWhole = true ∧ m ≤ t} (kept t) ∧
      (kept t).seconds = t.seconds ∧
      (1000000000 ≤ (kept t).nanos ↔ 1000000000 ≤ t.nanos) ∧
      (∃ excess : Nat, excess < 1000 ∧ t.move? (-excess) = some (kept t) ∧
        (kept t).move? excess = some t) ∧
      t.cut? = some (kept t) ∧ kept (kept t) = kept t ∧
      (∀ s, s ≤ t → kept s ≤ kept t) ∧
      ∀ s, kept (Instant.later s t) = Instant.later (kept s) (kept t) := by
  intro kept
  have nanos : (kept t).nanos = t.nanos - t.nanos % 1000 := rfl
  have leap : 1000000000 ≤ (kept t).nanos ↔ 1000000000 ≤ t.nanos := Instant.leap_floorMicros_iff t
  have excess : ((t.nanos % 1000 : Nat) : Int) = t.nanos - (kept t).nanos := by omega
  have back : -((t.nanos % 1000 : Nat) : Int) = (kept t).nanos - t.nanos := by omega
  refine ⟨rfl, Instant.isGreatest_floorMicros t, rfl, leap,
    ⟨t.nanos % 1000, Nat.mod_lt _ (by omega), ?_, ?_⟩, Instant.cut?_eq_some t,
    Instant.floorMicros_floorMicros t, fun s h => Instant.floorMicros_mono h,
    fun s => Instant.floorMicros_later s t⟩
  · rw [back]
    exact Instant.move?_eq_some rfl leap.symm
  · rw [excess]
    exact Instant.move?_eq_some rfl leap

-- The first instants of the calendar, long before 1970, and a leap second that is
-- nearly over.
theorem create_floor_ends :
    let kept (reading : Instant) : Instant :=
      (create ⟨"a"⟩ ⟨"n", none, "c", "d", true⟩ reading).createdAt
    let first : Instant := ⟨calendarStart, 0, by decide, by decide, by decide⟩
    let early : Instant := ⟨calendarStart, 999, by decide, by decide, by decide⟩
    let leap : Instant := ⟨1483228799, 1999999999, by decide, by decide, by decide⟩
    first ≤ early ∧ kept first ≤ kept early ∧ kept early = first ∧ early.cut? = some first ∧
      (kept leap).seconds = 1483228799 ∧ 1000000000 ≤ (kept leap).nanos ∧
      first.move? (-1) = none := by
  intro kept first early leap
  have law := create_floor ⟨"a"⟩ ⟨"n", none, "c", "d", true⟩
  have before : first ≤ early := by decide
  have cut : kept early = first := by decide
  refine ⟨before, (law early).2.2.2.2.2.2.2.1 first before, cut, ?_, (law leap).2.2.1,
    (law leap).2.2.2.1.2 (by decide), by decide⟩
  rw [← cut]
  exact (law early).2.2.2.2.2.1

end Rule

end Rulebook

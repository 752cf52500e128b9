import Rulebook.Decimal.Digits

/-!
# Reading Bounded Integers

A setting such as a number of connections is written in decimal, with an
optional sign. The reader says which of four things is wrong: nothing was
written, something else than a digit was written, or the number leaves the
range upwards or downwards. The first fault from the left decides, so a number
that is already too large is refused before a stray letter behind it is seen.

## Main definitions

* `IntegerFault`: What can be wrong, with `IntegerFault.message`.
* `readInteger`: Reads an integer between two bounds.

## Theorems

* `readInteger_bounds`: What is read lies between the bounds.
-/

namespace Rulebook
namespace Decimal

/-- Why a text is no integer of the wanted range. -/
inductive IntegerFault where
  | empty
  | strayCharacter
  | tooLarge
  | tooSmall
  deriving DecidableEq, Repr

/-- The wording of a fault. -/
def IntegerFault.message : IntegerFault → String
  | .empty => "cannot parse integer from empty string"
  | .strayCharacter => "invalid digit found in string"
  | .tooLarge => "number too large to fit in target type"
  | .tooSmall => "number too small to fit in target type"

/-- Extends a number by the digits of a text, upwards, staying at most `high`. -/
def extendUp (high : Int) : Int → List Char → Except IntegerFault Int
  | n, [] => .ok n
  | n, c :: rest =>
    match digitValue? c with
    | none => .error .strayCharacter
    | some d =>
      if high < n * 10 + d then .error .tooLarge else extendUp high (n * 10 + d) rest

/-- Extends a number by the digits of a text, downwards, staying at least `low`. -/
def extendDown (low : Int) : Int → List Char → Except IntegerFault Int
  | n, [] => .ok n
  | n, c :: rest =>
    match digitValue? c with
    | none => .error .strayCharacter
    | some d =>
      if n * 10 - d < low then .error .tooSmall else extendDown low (n * 10 - d) rest

/-- Reads an integer between `low` and `high`. A leading plus is allowed, a
    leading minus only where negative numbers are in range; a sign alone is a
    stray character. -/
def readInteger (low high : Int) (cs : List Char) : Except IntegerFault Int :=
  match cs with
  | [] => .error .empty
  | ['+'] | ['-'] => .error .strayCharacter
  | '+' :: rest => extendUp high 0 rest
  | '-' :: rest => if low < 0 then extendDown low 0 rest else .error .strayCharacter
  | cs => extendUp high 0 cs

-- Extended upwards, a number stays between zero and the upper bound.
theorem extendUp_bounds {high n m : Int} {cs : List Char} (hn : 0 ≤ n ∧ n ≤ high)
    (h : extendUp high n cs = .ok m) : 0 ≤ m ∧ m ≤ high := by
  induction cs generalizing n with
  | nil =>
    simp only [extendUp, Except.ok.injEq] at h
    omega
  | cons c rest ih =>
    simp only [extendUp] at h
    split at h
    · simp at h
    · split at h
      · simp at h
      · exact ih (by omega) h

-- Extended downwards, a number stays between the lower bound and zero.
theorem extendDown_bounds {low n m : Int} {cs : List Char} (hn : low ≤ n ∧ n ≤ 0)
    (h : extendDown low n cs = .ok m) : low ≤ m ∧ m ≤ 0 := by
  induction cs generalizing n with
  | nil =>
    simp only [extendDown, Except.ok.injEq] at h
    omega
  | cons c rest ih =>
    simp only [extendDown] at h
    split at h
    · simp at h
    · split at h
      · simp at h
      · exact ih (by omega) h

/-- What is read lies between the bounds. -/
theorem readInteger_bounds {low high m : Int} {cs : List Char} (hl : low ≤ 0) (hh : 0 ≤ high)
    (h : readInteger low high cs = .ok m) : low ≤ m ∧ m ≤ high := by
  unfold readInteger at h
  split at h
  · simp at h
  · simp at h
  · simp at h
  · have := extendUp_bounds (by omega) h
    omega
  · split at h
    · have := extendDown_bounds (by omega) h
      omega
    · simp at h
  · have := extendUp_bounds (by omega) h
    omega

end Decimal
end Rulebook

/-!
# Decimal Digits

Numbers as rows of ASCII digits. Times are written in fields of a fixed width,
so the basic writer takes the width and the basic reader is a left fold; that
the one undoes the other is what every reader of a time rests on.

## Main definitions

* `digit`: The character of a digit.
* `digitValue?`: The value of a digit character.
* `fixed`: The last digits of a number, in a field of a given width.
* `padded`: A number in at least the given width.
* `powerOfTen`: A one with some zeros behind it.
* `valueFrom`: The number that a row of digits extends.

## Theorems

* `length_fixed`: A field has its width.
* `valueFrom_fixed`: A field is read back, up to its width.
-/

namespace Rulebook
namespace Decimal

/-- The character of a digit; of a larger number, that of its last digit. -/
def digit (n : Nat) : Char :=
  Char.ofNat (48 + n % 10)

/-- Whether a character is one of the ten ASCII digits. -/
def isDigit (c : Char) : Bool :=
  48 ≤ c.toNat && c.toNat ≤ 57

/-- The value of an ASCII digit. -/
def digitValue? (c : Char) : Option Nat :=
  if isDigit c then some (c.toNat - 48) else none

/-- The last `width` digits of a number, leading zeros included. -/
def fixed : (width n : Nat) → List Char
  | 0, _ => []
  | width + 1, n => fixed width (n / 10) ++ [digit n]

/-- A number in decimal, with zeros in front up to the given width. -/
def padded (width n : Nat) : List Char :=
  let ds := Nat.toDigits 10 n
  List.replicate (width - ds.length) '0' ++ ds

/-- A one with `k` zeros behind it. -/
def powerOfTen : (k : Nat) → Nat
  | 0 => 1
  | k + 1 => 10 * powerOfTen k

/-- The number written by `start` followed by a row of digits. -/
def valueFrom (start : Nat) (cs : List Char) : Nat :=
  cs.foldl (fun n c => 10 * n + (c.toNat - 48)) start

-- The code point of a digit.
theorem toNat_digit (n : Nat) : (digit n).toNat = 48 + n % 10 := by
  have h : n % 10 < 10 := Nat.mod_lt _ (by decide)
  have hv : (48 + n % 10).isValidChar := by
    left
    omega
  rw [digit, Char.ofNat, dif_pos hv]
  rfl

-- A digit is a digit.
@[simp] theorem isDigit_digit (n : Nat) : isDigit (digit n) = true := by
  have h : n % 10 < 10 := Nat.mod_lt _ (by decide)
  simp only [isDigit, toNat_digit, Bool.and_eq_true, decide_eq_true_eq]
  omega

/-- A field has its width. -/
@[simp] theorem length_fixed (width n : Nat) : (fixed width n).length = width := by
  induction width generalizing n with
  | zero => rfl
  | succ w ih => simp [fixed, ih]

-- A field holds digits only.
theorem isDigit_of_mem_fixed {width n : Nat} {c : Char} (h : c ∈ fixed width n) :
    isDigit c = true := by
  induction width generalizing n with
  | zero => simp [fixed] at h
  | succ w ih =>
    rcases List.mem_append.1 h with h | h
    · exact ih h
    · simp only [List.mem_singleton] at h
      simp [h]

/-- A field is read back, up to its width. -/
theorem valueFrom_fixed (start width n : Nat) :
    valueFrom start (fixed width n) = start * powerOfTen width + n % powerOfTen width := by
  induction width generalizing n with
  | zero => simp [fixed, valueFrom, powerOfTen, Nat.mod_one]
  | succ w ih =>
    have hd : (digit n).toNat - 48 = n % 10 := by
      rw [toNat_digit]
      omega
    have hm : n % powerOfTen (w + 1) = 10 * (n / 10 % powerOfTen w) + n % 10 := by
      rw [powerOfTen, Nat.mod_mul]
      omega
    have ih' : List.foldl (fun n c => 10 * n + (c.toNat - 48)) start (fixed w (n / 10)) =
        start * powerOfTen w + n / 10 % powerOfTen w := ih (n / 10)
    simp only [valueFrom, fixed, List.foldl_append, List.foldl_cons, List.foldl_nil, ih', hd, hm]
    rw [powerOfTen, Nat.mul_add, Nat.mul_left_comm start]
    omega

end Decimal
end Rulebook

import Rulebook.Decimal.Integer

/-!
# Numerals

The texts that stand for a whole number: a row of digits, with or without a sign in
front. There are many for one number, as zeros may come first and a plus may be left
out, and the reader takes all of them.

The reader stops as soon as a bound is passed, before it has seen the whole row. That
this agrees with a bound on the whole number is due to a row never extending a number
to a smaller one, `le_valueFrom`.

## Main definitions

* `Digits`: Rows of digits.
* `Numeral`: The texts that stand for a number.

## Theorems

* `valueFrom_toDigits`: The digits that a number is written in stand for it.
* `extendUp_eq_ok_iff`, `extendDown_eq_ok_iff`: Rows are read up to a bound.
* `readInteger_eq_ok_iff`: What is read are the numerals between the bounds.
* `numeral_toString`: A number as it is written is a numeral.
-/

namespace Rulebook

namespace Decimal

/-! ## Digits -/

/-- No row of digits extends a number to a smaller one. -/
theorem le_valueFrom (start : Nat) (ds : List Char) : start ≤ valueFrom start ds := by
  induction ds generalizing start with
  | nil => exact Nat.le_refl start
  | cons c rest ih =>
    have h := ih (10 * start + (c.toNat - 48))
    simp only [valueFrom, List.foldl_cons] at h ⊢
    omega

/-- The digits that a number is written in stand for it. -/
theorem valueFrom_toDigits (n : Nat) : valueFrom 0 (Nat.toDigits 10 n) = n := by
  have h := Nat.ofDigitChars_ten_toDigits (n := n)
  rw [Nat.ofDigitChars_eq_foldl] at h
  exact h

theorem isDigit_of_mem_toDigits {n : Nat} {c : Char} (h : c ∈ Nat.toDigits 10 n) :
    isDigit c = true := by
  have hd := Nat.isDigit_of_mem_toDigits (by decide) (by decide) h
  simp only [Char.isDigit, ge_iff_le, Bool.and_eq_true, decide_eq_true_eq] at hd
  simp only [isDigit, Bool.and_eq_true, decide_eq_true_eq]
  exact ⟨UInt32.le_iff_toNat_le.1 hd.1, UInt32.le_iff_toNat_le.1 hd.2⟩

/-! ## Numerals -/

/-- Rows of digits, zeros in front included. -/
structure Digits (cs : List Char) : Prop where
  filled : cs ≠ []
  digits : ∀ c ∈ cs, isDigit c = true

/-- The texts that stand for a whole number. -/
inductive Numeral : List Char → Int → Prop
  | bare {cs : List Char} (row : Digits cs) : Numeral cs (valueFrom 0 cs)
  | plus {cs : List Char} (row : Digits cs) : Numeral ('+' :: cs) (valueFrom 0 cs)
  | minus {cs : List Char} (row : Digits cs) : Numeral ('-' :: cs) (-valueFrom 0 cs)

-- A row of digits does not start with a sign.
theorem not_digits_of_sign {c : Char} {rest : List Char} (sign : isDigit c = false) :
    ¬ Digits (c :: rest) := by
  intro row
  rw [row.digits c List.mem_cons_self] at sign
  exact absurd sign (by decide)

theorem numeral_plus_iff {rest : List Char} {m : Int} :
    Numeral ('+' :: rest) m ↔ Digits rest ∧ m = valueFrom 0 rest := by
  constructor
  · intro h
    cases h with
    | bare row => exact absurd row (not_digits_of_sign rfl)
    | plus row => exact ⟨row, rfl⟩
  · rintro ⟨row, rfl⟩
    exact .plus row

theorem numeral_minus_iff {rest : List Char} {m : Int} :
    Numeral ('-' :: rest) m ↔ Digits rest ∧ m = -valueFrom 0 rest := by
  constructor
  · intro h
    cases h with
    | bare row => exact absurd row (not_digits_of_sign rfl)
    | minus row => exact ⟨row, rfl⟩
  · rintro ⟨row, rfl⟩
    exact .minus row

theorem numeral_bare_iff {cs : List Char} {m : Int} (noPlus : ∀ rest, cs ≠ '+' :: rest)
    (noMinus : ∀ rest, cs ≠ '-' :: rest) :
    Numeral cs m ↔ Digits cs ∧ m = valueFrom 0 cs := by
  constructor
  · intro h
    cases h with
    | bare row => exact ⟨row, rfl⟩
    | plus row => exact absurd rfl (noPlus _)
    | minus row => exact absurd rfl (noMinus _)
  · rintro ⟨row, rfl⟩
    exact .bare row

/-- A row extends a number upwards, as long as the whole stays below the bound. -/
theorem extendUp_eq_ok_iff {high m : Int} {n : Nat} {cs : List Char} (below : (n : Int) ≤ high) :
    extendUp high n cs = .ok m ↔
      (∀ c ∈ cs, isDigit c = true) ∧ m = valueFrom n cs ∧ m ≤ high := by
  induction cs generalizing n with
  | nil =>
    simp only [extendUp, Except.ok.injEq, List.not_mem_nil, false_implies, implies_true, true_and,
      valueFrom, List.foldl_nil]
    omega
  | cons c rest ih =>
    have step : valueFrom n (c :: rest) = valueFrom (10 * n + (c.toNat - 48)) rest := rfl
    have grows := le_valueFrom (10 * n + (c.toNat - 48)) rest
    rw [List.forall_mem_cons, step]
    by_cases digit : isDigit c = true
    · have next : (n : Int) * 10 + (c.toNat - 48 : Nat) = (10 * n + (c.toNat - 48) : Nat) := by
        push_cast
        omega
      simp only [extendUp, digitValue?, digit, if_true, true_and, next]
      by_cases beyond : high < (10 * n + (c.toNat - 48) : Nat)
      · -- What is already too large stays so, whatever digits follow.
        simp only [beyond, if_true, reduceCtorEq, false_iff]
        omega
      · rw [if_neg beyond]
        exact ih (by omega)
    · simp only [extendUp, digitValue?, digit, Bool.false_eq_true, if_false, reduceCtorEq,
        false_and]

/-- A row extends a number downwards, as long as the whole stays above the bound. -/
theorem extendDown_eq_ok_iff {low m : Int} {n : Nat} {cs : List Char} (above : low ≤ -n) :
    extendDown low (-n) cs = .ok m ↔
      (∀ c ∈ cs, isDigit c = true) ∧ m = -valueFrom n cs ∧ low ≤ m := by
  induction cs generalizing n with
  | nil =>
    simp only [extendDown, Except.ok.injEq, List.not_mem_nil, false_implies, implies_true, true_and,
      valueFrom, List.foldl_nil]
    omega
  | cons c rest ih =>
    have step : valueFrom n (c :: rest) = valueFrom (10 * n + (c.toNat - 48)) rest := rfl
    have grows := le_valueFrom (10 * n + (c.toNat - 48)) rest
    rw [List.forall_mem_cons, step]
    by_cases digit : isDigit c = true
    · have next : -(n : Int) * 10 - (c.toNat - 48 : Nat) = -(10 * n + (c.toNat - 48) : Nat) := by
        push_cast
        omega
      simp only [extendDown, digitValue?, digit, if_true, true_and, next]
      by_cases beyond : -((10 * n + (c.toNat - 48) : Nat) : Int) < low
      · simp only [beyond, if_true, reduceCtorEq, false_iff]
        omega
      · rw [if_neg beyond]
        exact ih (by omega)
    · simp only [extendDown, digitValue?, digit, Bool.false_eq_true, if_false, reduceCtorEq,
        false_and]

theorem extendUp_zero_iff {high m : Int} {cs : List Char} (positive : 0 ≤ high) (filled : cs ≠ []) :
    extendUp high 0 cs = .ok m ↔ (Digits cs ∧ m = valueFrom 0 cs) ∧ m ≤ high := by
  refine (extendUp_eq_ok_iff (n := 0) positive).trans ?_
  rw [and_assoc]
  exact and_congr_left fun _ => ⟨fun digits => ⟨filled, digits⟩, Digits.digits⟩

theorem extendDown_zero_iff {low m : Int} {cs : List Char} (negative : low ≤ 0) (filled : cs ≠ []) :
    extendDown low 0 cs = .ok m ↔ (Digits cs ∧ m = -valueFrom 0 cs) ∧ low ≤ m := by
  refine (extendDown_eq_ok_iff (n := 0) (by simpa using negative)).trans ?_
  rw [and_assoc]
  exact and_congr_left fun _ => ⟨fun digits => ⟨filled, digits⟩, Digits.digits⟩

/-- What is read are the numerals between the bounds. -/
theorem readInteger_eq_ok_iff {low high m : Int} {cs : List Char} (negative : low < 0)
    (positive : 0 ≤ high) :
    readInteger low high cs = .ok m ↔ Numeral cs m ∧ low ≤ m ∧ m ≤ high := by
  -- Without digits there is no number, whatever the sign.
  have empty : ∀ {n : Int}, ¬ ((Digits [] ∧ m = n) ∧ low ≤ m ∧ m ≤ high) :=
    fun h => h.1.1.filled rfl
  -- Upwards only the upper bound is in the way, and downwards only the lower one.
  have upwards : ∀ {rest : List Char}, rest ≠ [] → (extendUp high 0 rest = .ok m ↔
      (Digits rest ∧ m = valueFrom 0 rest) ∧ low ≤ m ∧ m ≤ high) := by
    intro rest filled
    rw [extendUp_zero_iff positive filled]
    refine and_congr_right fun h => ?_
    omega
  have downwards : ∀ {rest : List Char}, rest ≠ [] → (extendDown low 0 rest = .ok m ↔
      (Digits rest ∧ m = -valueFrom 0 rest) ∧ low ≤ m ∧ m ≤ high) := by
    intro rest filled
    rw [extendDown_zero_iff (by omega) filled]
    refine and_congr_right fun h => ?_
    omega
  unfold readInteger
  split
  case h_1 =>
    rw [numeral_bare_iff (by simp) (by simp)]
    exact iff_of_false (by simp) empty
  case h_2 =>
    rw [numeral_plus_iff]
    exact iff_of_false (by simp) empty
  case h_3 =>
    rw [numeral_minus_iff]
    exact iff_of_false (by simp) empty
  case h_4 rest more =>
    rw [numeral_plus_iff]
    exact upwards fun h => more (by rw [h])
  case h_5 rest more =>
    rw [numeral_minus_iff, if_pos negative]
    exact downwards fun h => more (by rw [h])
  case h_6 filled _ _ noPlus noMinus =>
    rw [numeral_bare_iff noPlus noMinus]
    exact upwards filled

/-- A number as it is written is a numeral. -/
theorem numeral_toString (n : Nat) : Numeral (toString n).toList n := by
  have written : (toString n).toList = Nat.toDigits 10 n := Nat.toList_repr
  have row : Digits (Nat.toDigits 10 n) := ⟨Nat.toDigits_ne_nil, fun _ => isDigit_of_mem_toDigits⟩
  have numeral := Numeral.bare row
  rw [valueFrom_toDigits] at numeral
  rw [written]
  exact numeral

end Decimal

end Rulebook

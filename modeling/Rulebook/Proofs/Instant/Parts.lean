import Rulebook.Instant.Reader
import Rulebook.Proofs.Decimal.Numeral

/-!
# Parts of a Written Time

What the reader of times makes of each part that the writer puts down: a field
of a fixed width, a year with or without a sign, a fraction, a mark. Each lemma
is stated in front of an arbitrary rest, so that the parts can be read one after
the other.

How far a row of digits reaches is the one point where reader and writer have to
agree without a mark between the parts. Either the reader takes a bounded number
of digits and the field has just that many, or whatever comes next is no digit:
`readDigits_digits` covers both, because it says what is left to be read and not
where the reading stops.

## Main definitions

* `Unextended`: A text that does not go on with a digit.

## Theorems

* `readDigits_digits`: Reading a row of digits leaves the rest to be read.
* `readNumber_fixed`, `readNumber_padded`: Numbers are read back.
* `readField_fixed`: A field of two digits is read back.
* `readYear_yearText`: A year is read back, whatever its sign and width.
* `readFraction_fractionText`: A fraction is read back in nanoseconds.
-/

namespace Rulebook

namespace Instant

open Decimal (isDigit digitValue? fixed padded powerOfTen valueFrom le_valueFrom
  valueFrom_toDigits)

/-- A text that does not go on with a digit. -/
def Unextended (cs : List Char) : Prop :=
  ∀ c rest, cs = c :: rest → isDigit c = false

theorem unextended_cons {c : Char} {rest : List Char} (h : isDigit c = false) :
    Unextended (c :: rest) := by
  intro d tail heq
  rw [List.cons.injEq] at heq
  rw [← heq.1]
  exact h

-- A digit is no blank.
theorem isBlank_of_isDigit {c : Char} (h : isDigit c = true) : Text.isBlank c = false := by
  simp only [isDigit, Bool.and_eq_true, decide_eq_true_eq] at h
  simp only [Text.isBlank, Bool.or_eq_false_iff, Bool.and_eq_false_iff, beq_eq_false_iff_ne,
    decide_eq_false_iff_not]
  omega

theorem trimStart_of_not_blank {c : Char} {rest : List Char} (h : Text.isBlank c = false) :
    Text.trimStart (c :: rest) = c :: rest := by
  simp only [Text.trimStart, List.dropWhile_cons, h, Bool.false_eq_true, if_false]

theorem trimStart_of_digit {c : Char} {rest : List Char} (h : isDigit c = true) :
    Text.trimStart (c :: rest) = c :: rest :=
  trimStart_of_not_blank (isBlank_of_isDigit h)

theorem readDigits_cons {most : Option Nat} (more : most ≠ some 0) (value : Nat) (c : Char)
    (rest : List Char) :
    readDigits most value (c :: rest) =
      match digitValue? c with
      | none => .ok (value, c :: rest)
      | some d =>
        if largestNumber < 10 * value + d then .error .outOfRange
        else readDigits (most.map (· - 1)) (10 * value + d) rest := by
  cases most with
  | none => rfl
  | some n =>
    cases n with
    | zero => exact absurd rfl more
    | succ n => rfl

/-- Reading a row of digits that is not too long and not too large leaves the
    rest to be read, behind the number that the row extends. -/
theorem readDigits_digits {most : Option Nat} {value : Nat} {ds rest : List Char}
    (digits : ∀ c ∈ ds, isDigit c = true) (fits : ∀ m, most = some m → ds.length ≤ m)
    (small : valueFrom value ds ≤ largestNumber) :
    readDigits most value (ds ++ rest) =
      readDigits (most.map (· - ds.length)) (valueFrom value ds) rest := by
  induction ds generalizing most value with
  | nil => cases most <;> rfl
  | cons c ds ih =>
    have hvalue : digitValue? c = some (c.toNat - 48) := by
      simp only [digitValue?, digits c List.mem_cons_self, if_true]
    have hstep : valueFrom value (c :: ds) = valueFrom (10 * value + (c.toNat - 48)) ds := rfl
    rw [hstep] at small ⊢
    have hle := le_valueFrom (10 * value + (c.toNat - 48)) ds
    -- A digit more may be read, as the whole row may.
    have hmore : most ≠ some 0 := fun h => absurd (fits 0 h) (Nat.not_succ_le_zero _)
    have hfits : ∀ m, most.map (· - 1) = some m → ds.length ≤ m := by
      intro m hm
      rcases Option.map_eq_some_iff.1 hm with ⟨k, hk, rfl⟩
      have hlength := fits k hk
      rw [List.length_cons] at hlength
      omega
    have hmost : (most.map (· - 1)).map (· - ds.length) = most.map (· - (c :: ds).length) := by
      rw [Option.map_map]
      congr 1
      funext m
      simp only [Function.comp_apply, List.length_cons]
      omega
    rw [List.cons_append, readDigits_cons hmore]
    simp only [hvalue]
    rw [if_neg (by omega), ih (fun d hd => digits d (List.mem_cons_of_mem c hd)) hfits small, hmost]

-- Nothing more is read where no digit may or does follow.
theorem readDigits_end {most : Option Nat} {rest : List Char}
    (h : most = some 0 ∨ Unextended rest) (value : Nat) :
    readDigits most value rest = .ok (value, rest) := by
  by_cases hmost : most = some 0
  · rw [hmost, readDigits]
  · have hrest := h.resolve_left hmost
    cases rest with
    | nil =>
      rw [readDigits]
      exact hmost
    | cons c rest =>
      have hvalue : digitValue? c = none := by
        simp only [digitValue?, hrest c rest rfl, Bool.false_eq_true, if_false]
      rw [readDigits_cons hmost]
      simp only [hvalue]

-- A row of digits is read as its number, if the reading ends with it.
theorem readNumber_digits {most : Option Nat} {ds rest : List Char} (filled : ds ≠ [])
    (digits : ∀ c ∈ ds, isDigit c = true) (fits : ∀ m, most = some m → ds.length ≤ m)
    (small : valueFrom 0 ds ≤ largestNumber) (ending : most = some ds.length ∨ Unextended rest) :
    readNumber most (ds ++ rest) = .ok (valueFrom 0 ds, rest) := by
  cases ds with
  | nil => exact absurd rfl filled
  | cons c ds =>
    rw [List.cons_append, readNumber, if_pos (digits c List.mem_cons_self), ← List.cons_append,
      readDigits_digits digits fits small]
    refine readDigits_end ?_ _
    rcases ending with h | h
    · left
      rw [h, Option.map_some, Nat.sub_self]
    · right
      exact h

theorem valueFrom_fixed_zero (width n : Nat) (h : n < powerOfTen width) :
    valueFrom 0 (fixed width n) = n := by
  rw [Decimal.valueFrom_fixed, Nat.zero_mul, Nat.zero_add, Nat.mod_eq_of_lt h]

theorem fixed_ne_nil (width n : Nat) : fixed (width + 1) n ≠ [] := by
  intro h
  have hlength := congrArg List.length h
  rw [Decimal.length_fixed] at hlength
  exact absurd hlength (Nat.succ_ne_zero width)

/-- A field is read back if no more digits may be read than it has. -/
theorem readNumber_fixed {width n : Nat} (filled : 0 < width) (narrow : n < powerOfTen width)
    (small : n ≤ largestNumber) (rest : List Char) :
    readNumber (some width) (fixed width n ++ rest) = .ok (n, rest) := by
  have hvalue := valueFrom_fixed_zero width n narrow
  have hne : fixed width n ≠ [] := by
    rcases width with _ | w
    · omega
    · exact fixed_ne_nil w n
  rw [readNumber_digits hne (fun c hc => Decimal.isDigit_of_mem_fixed hc), hvalue]
  · intro m hm
    rw [Decimal.length_fixed]
    simp only [Option.some.injEq] at hm
    omega
  · rw [hvalue]
    exact small
  · left
    rw [Decimal.length_fixed]

theorem valueFrom_zeros (width : Nat) (ds : List Char) :
    valueFrom 0 (List.replicate width '0' ++ ds) = valueFrom 0 ds := by
  induction width with
  | zero => rfl
  | succ w ih =>
    rw [List.replicate_succ, List.cons_append]
    exact ih

theorem isDigit_of_mem_padded {width n : Nat} {c : Char} (h : c ∈ padded width n) :
    isDigit c = true := by
  rcases List.mem_append.1 h with h | h
  · rw [(List.mem_replicate.1 h).2]
    rfl
  · exact Decimal.isDigit_of_mem_toDigits h

/-- A number that is written in as many digits as it takes is read back if no
    digit follows. -/
theorem readNumber_padded {n : Nat} (small : n ≤ largestNumber) (width : Nat) {rest : List Char}
    (h : Unextended rest) : readNumber none (padded width n ++ rest) = .ok (n, rest) := by
  have hvalue : valueFrom 0 (padded width n) = n := by
    simp only [padded]
    rw [valueFrom_zeros, valueFrom_toDigits]
  have hne : padded width n ≠ [] := by
    intro hnil
    exact Nat.toDigits_ne_nil (List.append_eq_nil_iff.1 hnil).2
  rw [readNumber_digits hne (fun c hc => isDigit_of_mem_padded hc), hvalue]
  · intro m hm
    exact absurd hm (by simp only [reduceCtorEq, not_false_eq_true])
  · rw [hvalue]
    exact small
  · right
    exact h

-- The first character of a field is a digit.
theorem fixed_append_cons (width n : Nat) (rest : List Char) :
    ∃ c tail, fixed (width + 1) n ++ rest = c :: tail ∧ isDigit c = true := by
  cases hfixed : fixed (width + 1) n with
  | nil => exact absurd hfixed (fixed_ne_nil width n)
  | cons c tail =>
    refine ⟨c, tail ++ rest, rfl, ?_⟩
    exact Decimal.isDigit_of_mem_fixed (by rw [hfixed]; exact List.mem_cons_self)

theorem trimStart_fixed (width n : Nat) (rest : List Char) :
    Text.trimStart (fixed (width + 1) n ++ rest) = fixed (width + 1) n ++ rest := by
  rcases fixed_append_cons width n rest with ⟨c, tail, heq, hc⟩
  rw [heq]
  exact trimStart_of_digit hc

/-- A field of two digits is read back, if it lies in its range. -/
theorem readField_fixed {low high n : Nat} (hlow : low ≤ n) (hhigh : n ≤ high)
    (narrow : n < 100) (rest : List Char) :
    readField low high (fixed 2 n ++ rest) = .ok (n, rest) := by
  have hsmall : n ≤ largestNumber := by
    unfold largestNumber
    omega
  simp only [readField]
  rw [trimStart_fixed 1, readNumber_fixed (by decide) narrow hsmall]
  simp only [bind, Except.bind]
  rw [if_pos ⟨hlow, hhigh⟩]

-- A mark is read where it stands.
theorem readMark_cons {mark : Char} (h : Text.isBlank mark = false) (rest : List Char) :
    readMark mark (mark :: rest) = .ok ((), rest) := by
  unfold readMark
  rw [trimStart_of_not_blank h]
  simp only [if_true]

/-- A year is read back, whatever its sign and its width. -/
theorem readYear_yearText {year : Int} (low : -2147483648 ≤ year) (high : year ≤ 2147483647)
    {rest : List Char} (h : Unextended rest) :
    readYear (yearText year ++ rest) = .ok (year, rest) := by
  have hnatAbs : year.natAbs ≤ largestNumber := by
    unfold largestNumber
    omega
  unfold yearText
  by_cases hplain : 0 ≤ year ∧ year ≤ 9999
  · -- Four digits without a sign, so the reader takes four at most.
    rw [if_pos hplain]
    have hsmall : year.toNat ≤ largestNumber := by
      unfold largestNumber
      omega
    have hnarrow : year.toNat < powerOfTen 4 := by
      have hpower : powerOfTen 4 = 10000 := rfl
      omega
    have hnumber := readNumber_fixed (by decide) hnarrow hsmall rest
    have hyear : ((year.toNat : Nat) : Int) = year := by omega
    rcases fixed_append_cons 3 year.toNat rest with ⟨c, tail, heq, hc⟩
    have hminus : c ≠ '-' := by
      rintro rfl
      exact absurd hc (by decide)
    have hplus : c ≠ '+' := by
      rintro rfl
      exact absurd hc (by decide)
    unfold readYear
    rw [trimStart_fixed 3]
    rw [heq] at hnumber ⊢
    split
    · rename_i hhead
      exact absurd (List.cons.inj hhead).1 hminus
    · rename_i hhead
      exact absurd (List.cons.inj hhead).1 hplus
    · rw [hnumber]
      simp only [Except.map, bind, Except.bind, hyear]
      rw [if_pos ⟨low, high⟩]
  · rw [if_neg hplain]
    -- With a sign, the reader takes as many digits as there are.
    by_cases hsign : year < 0
    · have hyear : -(year.natAbs : Int) = year := by omega
      rw [if_pos hsign, List.cons_append]
      unfold readYear
      rw [trimStart_of_not_blank (by decide)]
      simp only [readNumber_padded hnatAbs 4 h, Except.map, bind, Except.bind, hyear]
      rw [if_pos ⟨low, high⟩]
    · have hyear : ((year.natAbs : Nat) : Int) = year := by omega
      rw [if_neg hsign, List.cons_append]
      unfold readYear
      rw [trimStart_of_not_blank (by decide)]
      simp only [readNumber_padded hnatAbs 4 h, Except.map, bind, Except.bind, hyear]
      rw [if_pos ⟨low, high⟩]

-- A fraction of some digits counts in nanoseconds.
theorem readFraction_fixed {width n : Nat} (filled : 0 < width) (narrow : width ≤ 9)
    (hn : n < powerOfTen width) (small : n ≤ largestNumber) {rest : List Char}
    (h : Unextended rest) :
    readFraction ('.' :: (fixed width n ++ rest)) = .ok (n * powerOfTen (9 - width), rest) := by
  have hvalue := valueFrom_fixed_zero width n hn
  have hnumber : readNumber (some 9) (fixed width n ++ rest) = .ok (n, rest) := by
    rw [readNumber_digits (by
      rcases width with _ | w
      · omega
      · exact fixed_ne_nil w n) (fun c hc => Decimal.isDigit_of_mem_fixed hc), hvalue]
    · intro m hm
      rw [Decimal.length_fixed]
      simp only [Option.some.injEq] at hm
      omega
    · rw [hvalue]
      exact small
    · exact Or.inr h
  have hdrop : rest.dropWhile Decimal.isDigit = rest := by
    cases rest with
    | nil => rfl
    | cons c tail => simp only [List.dropWhile_cons, h c tail rfl, Bool.false_eq_true, if_false]
  have hlength : (fixed width n ++ rest).length - rest.length = width := by
    rw [List.length_append, Decimal.length_fixed]
    omega
  simp only [readFraction, hnumber, bind, Except.bind, hlength, hdrop]

/-- A fraction is read back in nanoseconds. -/
theorem readFraction_fractionText {nanos : Nat} (hn : nanos < 1000000000) {rest : List Char}
    (h : Unextended rest) (hdot : ∀ tail, rest ≠ '.' :: tail) :
    readFraction (fractionText nanos ++ rest) = .ok (nanos, rest) := by
  have hsmall : nanos ≤ largestNumber := by
    unfold largestNumber
    omega
  unfold fractionText
  -- The fraction is written with no digits, three, six or nine.
  by_cases hzero : nanos = 0
  · rw [if_pos hzero, hzero, List.nil_append]
    unfold readFraction
    split
    · rename_i tail
      exact absurd rfl (hdot tail)
    · rfl
  · rw [if_neg hzero]
    by_cases hmillis : nanos % 1000000 = 0
    · rw [if_pos hmillis, List.cons_append, readFraction_fixed (by decide) (by decide) _ _ h]
      · have hpower : powerOfTen (9 - 3) = 1000000 := rfl
        rw [hpower, show nanos / 1000000 * 1000000 = nanos by omega]
      · have hpower : powerOfTen 3 = 1000 := rfl
        omega
      · omega
    · rw [if_neg hmillis]
      by_cases hmicros : nanos % 1000 = 0
      · rw [if_pos hmicros, List.cons_append, readFraction_fixed (by decide) (by decide) _ _ h]
        · have hpower : powerOfTen (9 - 6) = 1000 := rfl
          rw [hpower, show nanos / 1000 * 1000 = nanos by omega]
        · have hpower : powerOfTen 6 = 1000000 := rfl
          omega
        · omega
      · rw [if_neg hmicros, List.cons_append,
          readFraction_fixed (by decide) (by decide) hn hsmall h]
        have hpower : powerOfTen (9 - 9) = 1 := rfl
        rw [hpower, Nat.mul_one]

end Instant

end Rulebook

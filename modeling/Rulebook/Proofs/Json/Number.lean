import Rulebook.Proofs.Json.Grammar
import Rulebook.Proofs.Json.Skip

/-!
# However a Number Is Written

A number that nobody asked for is checked for its form alone, part by part: digits, a
point with digits, an exponent with its sign. Each part ends where the next one begins,
so that it is passed over is shown from the last part to the first. The last part has
no end of its own, and needs something behind it that does not go on with it.

## Main definitions

* `Stops`: What does not go on with a number in front of it.

## Theorems

* `skipBlanks_gap`: Blanks are passed over.
* `takeDigits_octets`: Digits are taken up to what is none.
* `skipExponent_octets`, `skipTail_octets`: An exponent, and all behind the whole digits.
* `skipDigits_octets`: A number is passed over, from its first digit on.
-/

namespace Rulebook
namespace Json

open Text (Octets)

/-! ## Blanks -/

@[simp] theorem skipBlanks_gap (gap : Gap) (bs : Octets) :
    skipBlanks (gap.octets ++ bs) = skipBlanks bs := by
  refine skipBlanks_blanks_append fun b hb => ?_
  rcases List.mem_map.1 hb with ⟨blank, -, rfl⟩
  cases blank <;> rfl

/-! ## Numbers -/

/-- What does not go on with a number in front of it. -/
def Stops (bs : Octets) : Prop :=
  ∀ b ∈ bs.head?, isDigit b = false ∧ b ≠ 0x2E ∧ b ≠ 0x65 ∧ b ≠ 0x45

theorem stops_cons {b : UInt8} (rest : Octets)
    (h : isDigit b = false ∧ b ≠ 0x2E ∧ b ≠ 0x65 ∧ b ≠ 0x45) : Stops (b :: rest) := by
  intro c hc
  rw [List.head?_cons, Option.mem_some_iff] at hc
  exact hc ▸ h

-- Blanks do not go on with a number either.
theorem Stops.gap {bs : Octets} (h : Stops bs) (gap : Gap) : Stops (gap.octets ++ bs) := by
  cases gap with
  | nil => exact h
  | cons blank rest =>
    refine stops_cons (rest.map Blank.octet ++ bs) ?_
    cases blank <;> decide

theorem isDigit_octet (d : Digit) : isDigit d.octet = true := by
  revert d
  decide

theorem Stops.digits {bs : Octets} (h : Stops bs) : ∀ b ∈ bs.head?, isDigit b = false :=
  fun b hb => (h b hb).1

-- Digits are taken up to what is none.
theorem takeDigits_octets (ds : List Digit) {bs : Octets}
    (stop : ∀ b ∈ bs.head?, isDigit b = false) :
    takeDigits (ds.map Digit.octet ++ bs) = (ds.map Digit.octet, bs) := by
  have digits : ∀ b ∈ ds.map Digit.octet, isDigit b = true := by
    intro b hb
    rcases List.mem_map.1 hb with ⟨d, -, rfl⟩
    exact isDigit_octet d
  rw [takeDigits, List.takeWhile_append_of_pos digits, List.dropWhile_append_of_pos digits]
  cases bs with
  | nil => rw [List.takeWhile_nil, List.dropWhile_nil, List.append_nil]
  | cons b bs =>
    have none : ¬ isDigit b = true := by
      rw [stop b rfl]
      exact Bool.false_ne_true
    rw [List.takeWhile_cons_of_neg none, List.dropWhile_cons_of_neg none, List.append_nil]

-- The sign in front of the digits of an exponent, if there is one.
theorem exponentSign_octets (sign : Option Bool) {d : UInt8} (digit : isDigit d = true)
    (rest : Octets) : (exponentSign (Exponent.signOctets sign ++ d :: rest)).2 = d :: rest := by
  rcases exponentSign_digit (Exponent.signOctets sign) with ⟨front, hfront, hsign⟩
  have whole : (exponentSign (Exponent.signOctets sign)).2 = [] := by
    rcases sign with _ | _ | _ <;> rfl
  rw [whole, List.append_nil] at hfront
  rw [hfront]
  exact hsign d rest digit

theorem skipExponent_octets (e : Exponent) {bs : Octets} (stops : Stops bs) :
    skipExponent (Exponent.signOctets e.sign ++ (e.digits.octets ++ bs)) = .ok bs := by
  have digit := isDigit_octet e.digits.first
  rw [skipExponent, Digits.octets, List.map_cons, List.cons_append, exponentSign_octets _ digit]
  simp only [digit, if_true, takeDigits_octets e.digits.rest stops.digits]

-- What does not go on with a number is left.
theorem skipTail_of_stops {bs : Octets} (stops : Stops bs) : skipTail bs = .ok bs := by
  cases bs with
  | nil => rfl
  | cons b bs =>
    rcases stops b rfl with ⟨-, point, small, large⟩
    rw [skipTail]
    · exact fun _ same => point (List.cons.inj same).1
    · exact fun _ same => small (List.cons.inj same).1
    · exact fun _ same => large (List.cons.inj same).1

theorem exponentOctets_some (e : Exponent) (bs : Octets) :
    Number.exponentOctets (some e) ++ bs = (if e.capital then 0x45 else 0x65) ::
      (Exponent.signOctets e.sign ++ (e.digits.octets ++ bs)) := by
  rw [Number.exponentOctets, Exponent.octets, List.cons_append, List.cons_append,
    List.append_assoc]

theorem skipTail_exponent (e? : Option Exponent) {bs : Octets} (stops : Stops bs) :
    skipTail (Number.exponentOctets e? ++ bs) = .ok bs := by
  cases e? with
  | none => exact skipTail_of_stops stops
  | some e =>
    have passed := skipExponent_octets e stops
    rw [exponentOctets_some]
    cases e.capital with
    | true => exact passed
    | false => exact passed

-- Behind the digits of a number no further digit comes.
theorem exponentOctets_digits (e? : Option Exponent) {bs : Octets} (stops : Stops bs) :
    ∀ b ∈ (Number.exponentOctets e? ++ bs).head?, isDigit b = false := by
  cases e? with
  | none => exact stops.digits
  | some e =>
    intro b hb
    rw [exponentOctets_some, List.head?_cons, Option.mem_some_iff] at hb
    rw [← hb]
    cases e.capital <;> rfl

theorem skipTail_octets (ds? : Option Digits) (e? : Option Exponent) {bs : Octets}
    (stops : Stops bs) :
    skipTail (Number.decimalOctets ds? ++ (Number.exponentOctets e? ++ bs)) = .ok bs := by
  cases ds? with
  | none => exact skipTail_exponent e? stops
  | some ds =>
    have digits := takeDigits_octets (ds.first :: ds.rest) (exponentOctets_digits e? stops)
    rw [Number.decimalOctets, List.cons_append, skipTail, Digits.octets, digits, List.map_cons]
    cases e? with
    | none =>
      -- No exponent follows, and what does is left.
      rw [Number.exponentOctets, List.nil_append]
      split
      · next none => cases none
      · next same => exact absurd rfl (stops _ (by rw [(Prod.mk.inj same).2]; rfl)).2.2.1
      · next same => exact absurd rfl (stops _ (by rw [(Prod.mk.inj same).2]; rfl)).2.2.2
      · next same => rw [(Prod.mk.inj same).2]
    | some e =>
      have passed := skipExponent_octets e stops
      rw [exponentOctets_some]
      cases e.capital with
      | true => exact passed
      | false => exact passed

-- What comes behind the whole digits of a number is no digit.
theorem decimalOctets_digits (ds? : Option Digits) (e? : Option Exponent) {bs : Octets}
    (stops : Stops bs) :
    ∀ b ∈ (Number.decimalOctets ds? ++ (Number.exponentOctets e? ++ bs)).head?,
      isDigit b = false := by
  cases ds? with
  | none => exact exponentOctets_digits e? stops
  | some ds =>
    intro b hb
    rw [Number.decimalOctets, List.cons_append, List.head?_cons, Option.mem_some_iff] at hb
    rw [← hb]
    rfl

theorem skipDigits_whole (whole : Whole) {bs : Octets}
    (stop : ∀ b ∈ bs.head?, isDigit b = false) :
    skipDigits (whole.octets ++ bs) = skipTail bs := by
  cases whole with
  | zero =>
    cases bs with
    | nil => rfl
    | cons b bs =>
      simp only [Whole.octets, List.singleton_append, skipDigits, stop b rfl, Bool.false_eq_true,
        if_true, if_false]
  | digits ds positive =>
    have first : ∀ d : Digit, d.val ≠ 0 → d.octet ≠ 0x30 := by decide
    simp only [Whole.octets, Digits.octets, List.map_cons, List.cons_append, skipDigits,
      first ds.first positive, isDigit_octet ds.first, if_true, if_false,
      takeDigits_octets ds.rest stop]

/-- A number is passed over, from its first digit on. -/
theorem skipDigits_octets (n : Number) {bs : Octets} (stops : Stops bs) :
    skipDigits (n.whole.octets ++ (Number.decimalOctets n.decimals ++
      (Number.exponentOctets n.exponent ++ bs))) = .ok bs := by
  rw [skipDigits_whole n.whole (decimalOctets_digits n.decimals n.exponent stops)]
  exact skipTail_octets n.decimals n.exponent stops

end Json
end Rulebook

import Rulebook.Proofs.Json.Front
import Rulebook.Proofs.Json.Grammar

/-!
# However a Text Is Written

A text is read as what it says, whatever mixture of characters and escapes it is
written in, and it is refused exactly if it says nothing. A text that nobody asked for
is passed over either way.

## Main definitions

* `Literal.ofText`: One of the ways to write a text.

## Theorems

* `hexUnit?_octet`: Four digits name their unit.
* `text?_ofText`: Every text can be written.
* `readTextOctets_octets`: The octets of a literal are gathered as what it says.
* `readText_octets`: A literal is read as the text that it says, if it says one.
* `skipText_octets`: Any literal is passed over.
-/

namespace Rulebook
namespace Json

open Text (Octets encoded)

theorem Literal.octets_cons (letter : Letter) (s : Literal) :
    Literal.octets (letter :: s) = letter.octets ++ s.octets :=
  List.flatMap_cons

theorem Literal.octets_unit (a b c d : HexDigit) (s : Literal) (rest : Octets) :
    Literal.octets (.unit a b c d :: s) ++ rest =
      0x5C :: 0x75 :: a.octet :: b.octet :: c.octet :: d.octet :: (s.octets ++ rest) := by
  rw [Literal.octets_cons, List.append_assoc]
  rfl

/-! ## Digits and escapes -/

theorem hexValue?_octet (d : HexDigit) : hexValue? d.octet = some d.value.val := by
  have digits : ∀ (value : Fin 16) (capital : Bool),
      hexValue? (HexDigit.mk value capital).octet = some value.val := by
    decide
  exact digits d.value d.capital

/-- Four digits name their unit. -/
theorem hexUnit?_octet (a b c d : HexDigit) :
    hexUnit? a.octet b.octet c.octet d.octet = some (unitOf a b c d) := by
  simp only [hexUnit?, hexValue?_octet, unitOf]

theorem escapeOctet?_sign (escape : Short) :
    ∃ e, escapeOctet? escape.sign = some e ∧ String.utf8EncodeChar escape.char = [e] ∧
      escape.sign ≠ 0x75 := by
  cases escape <;> exact ⟨_, rfl, rfl, by decide⟩

theorem plain_of_visible {c : Char} (visible : 0x20 ≤ c.toNat ∧ c ≠ '"' ∧ c ≠ '\\') :
    ∀ b ∈ String.utf8EncodeChar c, Plain b := fun _ hb =>
  plain_of_mem_utf8EncodeChar visible.2.1 visible.2.2 (Nat.not_lt.2 visible.1) hb

/-! ## Texts that can be written -/

/-- A character that stands for itself where it may, and is written by its number
    elsewhere. -/
def Letter.ofChar (c : Char) : Letter :=
  if h : 0x20 ≤ c.toNat ∧ c ≠ '"' ∧ c ≠ '\\' then .plain c h
  else .unit (.ofNat 0) (.ofNat 0) (.ofNat (c.toNat / 16)) (.ofNat c.toNat)

/-- One of the ways to write a text. -/
def Literal.ofText (s : String) : Literal :=
  s.toList.map Letter.ofChar

-- What may not stand for itself has a small number.
theorem lt_of_not_visible {c : Char} (h : ¬ (0x20 ≤ c.toNat ∧ c ≠ '"' ∧ c ≠ '\\')) :
    c.toNat < 0x60 := by
  refine Nat.lt_of_not_le fun large => h ⟨by omega, ?_, ?_⟩
  · rintro rfl
    exact absurd large (by decide)
  · rintro rfl
    exact absurd large (by decide)

-- A small number names its character, for it is no half of a pair.
theorem chars?_small {c : Char} (small : c.toNat < 0x60) (tail : Literal) :
    Literal.chars?
        (.unit (.ofNat 0) (.ofNat 0) (.ofNat (c.toNat / 16)) (.ofNat c.toNat) :: tail) =
      tail.chars?.map (c :: ·) := by
  have number :
      unitOf (.ofNat 0) (.ofNat 0) (.ofNat (c.toNat / 16)) (.ofNat c.toNat) = c.toNat := by
    simp only [unitOf, HexDigit.ofNat]
    omega
  have alone : isLowSurrogate c.toNat = false ∧ isHighSurrogate c.toNat = false := by
    simp only [isLowSurrogate, isHighSurrogate, Bool.and_eq_false_iff, decide_eq_false_iff_not]
    omega
  rw [Literal.chars?.eq_def]
  simp only [number, alone, Bool.false_eq_true, if_false, Char.ofNat_toNat]

theorem chars?_ofChar (cs : List Char) : Literal.chars? (cs.map Letter.ofChar) = some cs := by
  induction cs with
  | nil => rfl
  | cons c cs ih =>
    rw [List.map_cons, Letter.ofChar]
    split
    · rw [Literal.chars?, ih, Option.map_some]
    · next hidden => rw [chars?_small (lt_of_not_visible hidden), ih, Option.map_some]

/-- Every text can be written. -/
theorem text?_ofText (s : String) : (Literal.ofText s).text? = some s := by
  rw [Literal.text?, Literal.ofText, chars?_ofChar, Option.map_some, String.ofList_toList]

/-! ## Texts that are read -/

-- Where the first half of a pair stands, only a unit may follow.
theorem readTextOctets_high {done rest : Octets} {a b c d : UInt8} {n : Nat}
    (unit : hexUnit? a b c d = some n) (low : isLowSurrogate n = false)
    (high : isHighSurrogate n = true) {made : Octets × Octets}
    (h : readTextOctets done (0x5C :: 0x75 :: a :: b :: c :: d :: rest) = .ok made) :
    ∃ behind, rest = 0x5C :: 0x75 :: behind := by
  rw [readTextOctets, unit] at h
  simp only [low, high, Bool.false_eq_true, if_true, if_false] at h
  split at h
  · exact ⟨_, rfl⟩
  · exact absurd h unpaired_ne_ok

-- What is no unit is not taken for one.
theorem not_unit_of_octets {s : Literal} {rest behind : Octets}
    (other : ∀ a b c d tail, s = .unit a b c d :: tail → False) :
    s.octets ++ 0x22 :: rest ≠ 0x5C :: 0x75 :: behind := by
  intro same
  cases s with
  | nil => exact absurd (List.cons.inj same).1 (by decide)
  | cons letter tail =>
    rw [Literal.octets_cons, List.append_assoc] at same
    cases letter with
    | unit a b c d => exact other a b c d tail rfl
    | short escape =>
      rcases escapeOctet?_sign escape with ⟨-, -, -, unit⟩
      exact unit (List.cons.inj (List.cons.inj same).2).1
    | plain c visible =>
      -- The first octet of the character would be a backslash.
      cases octets : String.utf8EncodeChar c with
      | nil => exact String.utf8EncodeChar_ne_nil octets
      | cons b bs =>
        rw [Letter.octets, octets, List.cons_append] at same
        have plain := plain_of_visible visible b (by rw [octets]; exact List.mem_cons_self ..)
        exact plain.2.2 (List.cons.inj same).1

-- A letter in front adds its character to what is gathered.
theorem readTextOctets_letter (letters : Octets) {s : Literal} {done rest : Octets} {c : Char}
    (step : ∀ bs, readTextOctets done (letters ++ bs) =
      readTextOctets ((String.utf8EncodeChar c).reverse ++ done) bs)
    (behind : ∀ done, (readTextOctets done (s.octets ++ 0x22 :: rest)).toOption =
      s.chars?.map fun cs => (done.reverse ++ encoded cs, rest)) :
    (readTextOctets done (letters ++ (s.octets ++ 0x22 :: rest))).toOption =
      (s.chars?.map (c :: ·)).map fun cs => (done.reverse ++ encoded cs, rest) := by
  rw [step, behind, Option.map_map]
  congr 1
  funext cs
  rw [Function.comp_apply, List.reverse_append, List.reverse_reverse, List.append_assoc,
    Text.encoded_cons]

theorem toOption_eq_none {E α : Type} {read : Except E α} (h : ∀ a, read ≠ .ok a) :
    read.toOption = none := by
  cases read with
  | error fault => rfl
  | ok a => exact absurd rfl (h a)

/-- The octets of a literal are gathered as the characters that it says. -/
theorem readTextOctets_octets (s : Literal) (done rest : Octets) :
    (readTextOctets done (s.octets ++ 0x22 :: rest)).toOption =
      s.chars?.map fun cs => (done.reverse ++ encoded cs, rest) := by
  fun_induction Literal.chars? s generalizing done with
  | case1 =>
    rw [Option.map_some, Text.encoded_nil, List.append_nil]
    rfl
  | case2 c visible tail ih =>
    rw [Literal.octets_cons, List.append_assoc]
    exact readTextOctets_letter _
      (fun bs => readTextOctets_plain_append (plain_of_visible visible)) ih
  | case3 escape tail ih =>
    rcases escapeOctet?_sign escape with ⟨e, short, octets, unit⟩
    rw [Literal.octets_cons, List.append_assoc]
    refine readTextOctets_letter _ (fun bs => ?_) ih
    rw [octets]
    exact readTextOctets_short unit short
  | case4 a b c d tail n low =>
    -- A second half comes first.
    rw [Literal.octets_unit, readTextOctets, hexUnit?_octet]
    simp only [n, low, if_true]
    rfl
  | case5 a b c d n low high e f g k tail m second ih =>
    rw [Literal.octets_unit, Literal.octets_unit]
    refine readTextOctets_letter [0x5C, 0x75, a.octet, b.octet, c.octet, d.octet,
      0x5C, 0x75, e.octet, f.octet, g.octet, k.octet] (fun bs => ?_) ih
    simp only [List.cons_append, List.nil_append, readTextOctets, hexUnit?_octet, n, m, low, high,
      second, Bool.false_eq_true, if_true, if_false]
    rfl
  | case6 a b c d n low high e f g k tail m second =>
    -- A first half is followed by no second one.
    rw [Literal.octets_unit, Literal.octets_unit, readTextOctets, hexUnit?_octet]
    simp only [n, low, high, hexUnit?_octet, m, second, if_true, if_false, Bool.false_eq_true]
    rfl
  | case7 a b c d tail n low high other =>
    refine toOption_eq_none fun made h => ?_
    rw [Literal.octets_unit] at h
    rcases readTextOctets_high (hexUnit?_octet a b c d) (Bool.not_eq_true _ ▸ low) high h with
      ⟨behind, same⟩
    exact not_unit_of_octets other same
  | case8 a b c d tail n low high ih =>
    rw [Literal.octets_unit]
    refine readTextOctets_letter [0x5C, 0x75, a.octet, b.octet, c.octet, d.octet]
      (fun bs => ?_) ih
    exact readTextOctets_unit (hexUnit?_octet a b c d) (Bool.not_eq_true _ ▸ low)
      (Bool.not_eq_true _ ▸ high)

/-- A literal is read as the text that it says, and refused if it says none. -/
theorem readText_octets (s : Literal) (rest : Octets) :
    (readText (s.octets ++ 0x22 :: rest)).toOption = s.text?.map fun t => (t, rest) := by
  have gathered := readTextOctets_octets s [] rest
  cases read : readTextOctets [] (s.octets ++ 0x22 :: rest) with
  | error fault =>
    rw [read] at gathered
    rw [readText, read, Literal.text?, Option.map_eq_none_iff.1 gathered.symm]
    rfl
  | ok made =>
    rw [read] at gathered
    rcases Option.map_eq_some_iff.1 gathered.symm with ⟨cs, hcs, rfl⟩
    -- What has been gathered is a text in UTF-8.
    have valid : Text.ofOctets? (encoded cs) = some (String.ofList cs) := by
      rw [← Text.octets_ofList, Text.ofOctets?_octets]
    simp only [readText, read, bind, Except.bind, List.reverse_nil, List.nil_append, valid,
      Literal.text?, hcs]
    rfl

/-! ## Texts that nobody asked for -/

theorem skipText_plain_append {bs : Octets} (plain : ∀ b ∈ bs, Plain b) (rest : Octets) :
    skipText (bs ++ rest) = skipText rest := by
  induction bs with
  | nil => rfl
  | cons b bs ih =>
    rw [List.forall_mem_cons] at plain
    rcases plain with ⟨⟨printable, quote, backslash⟩, plain⟩
    rw [List.cons_append, skipText_octet quote backslash (UInt8.not_lt.2 printable), ih plain]

/-- Any literal is passed over. -/
theorem skipText_octets (s : Literal) (rest : Octets) :
    skipText (s.octets ++ 0x22 :: rest) = .ok rest := by
  induction s with
  | nil => rfl
  | cons letter tail ih =>
    cases letter with
    | plain c visible =>
      rw [Literal.octets_cons, List.append_assoc]
      exact (skipText_plain_append (plain_of_visible visible) _).trans ih
    | short escape =>
      rcases escapeOctet?_sign escape with ⟨e, short, -, unit⟩
      rw [Literal.octets_cons, List.append_assoc, Letter.octets, List.cons_append,
        List.singleton_append, skipText, short]
      · exact ih
      · exact fun _ _ _ _ _ same => absurd same unit
      · exact fun same => absurd same unit
    | unit a b c d =>
      rw [Literal.octets_unit, skipText, hexUnit?_octet]
      exact ih

end Json
end Rulebook

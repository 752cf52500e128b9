import Mathlib.Data.List.DropRight
import Rulebook.Json.Skip
import Rulebook.Proofs.Json.Text

/-!
# What a Reader Looks At

A reader takes something off the front of a text and leaves the rest alone. That
it does not look at the rest either is a separate fact. A text has its closing
quote and a word its last letter, so readers of these stop by themselves: where
one of them has succeeded, the same octets are read with the same result in
front of anything else. `Taken` says so, and it is carried from the parts of a
reader to the whole.

## Main definitions

* `Taken`: What is read in front of any text.

## Theorems

* `taken_readWord`, `taken_readText`: Words and texts stop by themselves.
* `taken_skipText`: So does a text that nobody asked for.
* `taken_wantText`, `taken_wantTextOrNull`, `taken_wantBool`: So does every entry.
-/

namespace Rulebook
namespace Json

open Text (Octets)

section

variable {E α β : Type}

/-- What stands in front of `rest` is read with the same result in front of any
    text; `result` says what the reader returns when that text is left. -/
def Taken (read : Octets → Except E β) (result : Octets → β) (bs rest : Octets) : Prop :=
  ∃ front, bs = front ++ rest ∧ ∀ other, read (front ++ other) = .ok (result other)

-- What is passed first may be put in front.
theorem Taken.cons {read inner : Octets → Except E β} {result : Octets → β}
    {bs rest : Octets} (passed : Octets) (h : Taken inner result bs rest)
    (step : ∀ bs, read (passed ++ bs) = inner bs) : Taken read result (passed ++ bs) rest := by
  rcases h with ⟨front, hbs, hread⟩
  refine ⟨passed ++ front, by rw [hbs, List.append_assoc], fun other => ?_⟩
  rw [List.append_assoc, step, hread]

/-! ## Refusals -/

theorem faultAt_ne_ok {cause : Cause} {bs : Octets} {a : α} : faultAt cause bs ≠ .ok a := by
  simp only [faultAt, ne_eq, reduceCtorEq, not_false_eq_true]

theorem faultOver_ne_ok {cause : Cause} {bs : Octets} {a : α} : faultOver cause bs ≠ .ok a := by
  simp only [faultOver, ne_eq, reduceCtorEq, not_false_eq_true]

theorem unpaired_ne_ok {bs : Octets} {a : α} : unpaired bs ≠ .ok a := by
  unfold unpaired
  split <;> exact faultAt_ne_ok

-- What is read first has been read, where something is read behind it.
theorem bind_eq_ok {read : Except E α} {next : α → Except E β} {b : β}
    (h : read >>= next = .ok b) : ∃ a, read = .ok a ∧ next a = .ok b := by
  cases read with
  | error fault =>
      exact absurd h (by simp only [bind, Except.bind, reduceCtorEq, not_false_eq_true])
  | ok a => exact ⟨a, rfl, h⟩

theorem bind_ne_ok {read : Except E α} {next : α → Except E β} {b : β}
    (refused : ∀ a, next a ≠ .ok b) : read >>= next ≠ .ok b := by
  intro h
  rcases bind_eq_ok h with ⟨a, -, taken⟩
  exact refused a taken

theorem ite_ne_ok {p : Prop} [Decidable p] {read other : Except E β} {b : β}
    (h : read ≠ .ok b) (hother : other ≠ .ok b) : (if p then read else other) ≠ .ok b := by
  split
  · exact h
  · exact hother

-- What is in the wrong place is refused, whatever it is.
theorem refuse_ne_ok {wanted : String} {bs : Octets} {a : α} : refuse wanted bs ≠ .ok a := by
  cases bs with
  | nil => exact faultAt_ne_ok
  | cons b rest =>
      simp only [refuse]
      -- A word, a number and a text are read first, to be named.
      refine ite_ne_ok (bind_ne_ok fun _ => faultAt_ne_ok) ?_
      refine ite_ne_ok (bind_ne_ok fun _ => faultAt_ne_ok) ?_
      refine ite_ne_ok (bind_ne_ok fun _ => faultAt_ne_ok) ?_
      refine ite_ne_ok (bind_ne_ok fun _ => faultAt_ne_ok) ?_
      refine ite_ne_ok (bind_ne_ok fun _ => faultAt_ne_ok) ?_
      -- A list and an object are named as they open.
      exact ite_ne_ok faultAt_ne_ok (ite_ne_ok faultAt_ne_ok faultOver_ne_ok)

/-! ## Blanks and words -/

-- Blanks in front of something that is none.
theorem skipBlanks_eq_cons {bs rest : Octets} {b : UInt8} (h : skipBlanks bs = b :: rest) :
    ∃ blanks, bs = blanks ++ b :: rest ∧
      ∀ other, skipBlanks (blanks ++ b :: other) = b :: other := by
  have split : bs.takeWhile isBlank ++ skipBlanks bs = bs := List.takeWhile_append_dropWhile
  have visible : isBlank b = false := by
    have head := List.head?_dropWhile_not isBlank bs
    have dropped : bs.dropWhile isBlank = b :: rest := h
    rw [dropped] at head
    simpa only [List.head?_cons, Bool.not_eq_true] using head
  refine ⟨bs.takeWhile isBlank, by rw [← h, split], fun other => ?_⟩
  rw [skipBlanks_blanks_append (List.all_eq_true.mp List.all_takeWhile),
    skipBlanks_of_not_blank visible]

theorem skipBlanks_skipBlanks (bs : Octets) : skipBlanks (skipBlanks bs) = skipBlanks bs :=
  List.dropWhile_idempotent isBlank bs

-- Blanks and an octet behind them may be passed first.
theorem Taken.blanks {read inner : Octets → Except E β} {result : Octets → β}
    {bs behind rest : Octets} {b : UInt8} (h : Taken inner result behind rest)
    (start : skipBlanks bs = b :: behind)
    (step : ∀ bs other, skipBlanks bs = b :: other → read bs = inner other) :
    Taken read result bs rest := by
  rcases skipBlanks_eq_cons start with ⟨blanks, hbs, hskip⟩
  rcases h with ⟨front, hbehind, hread⟩
  refine ⟨blanks ++ b :: front, by rw [hbs, hbehind, List.append_assoc]; rfl, fun other => ?_⟩
  rw [List.append_assoc, List.cons_append, step _ _ (hskip _), hread]

theorem Taken.map {read : Octets → Except E β} {result : Octets → β} {bs rest : Octets}
    (f : β → α) (h : Taken read result bs rest) :
    Taken (fun bs => (read bs).map f) (fun other => f (result other)) bs rest := by
  rcases h with ⟨front, hbs, hread⟩
  exact ⟨front, hbs, fun other => by simp only [hread, Except.map]⟩

theorem taken_readWord {word bs rest : Octets} (h : readWord word bs = .ok rest) :
    Taken (readWord word) id bs rest := by
  induction word generalizing bs with
  | nil =>
      simp only [readWord, Except.ok.injEq] at h
      exact ⟨[], h, fun _ => rfl⟩
  | cons w word ih =>
      cases bs with
      | nil => exact absurd h faultAt_ne_ok
      | cons b bs =>
          simp only [readWord] at h
          by_cases same : w = b
          · rw [if_pos same] at h
            exact (ih h).cons [b] fun bs => by
              rw [List.singleton_append, readWord, if_pos same]
          · rw [if_neg same] at h
            exact absurd h faultAt_ne_ok

/-! ## Texts -/

theorem taken_readTextOctets {done bs decoded rest : Octets}
    (h : readTextOctets done bs = .ok (decoded, rest)) :
    Taken (readTextOctets done) (fun other => (decoded, other)) bs rest := by
  fun_induction readTextOctets done bs with
  | case1 | case3 | case4 | case5 | case7 | case10 | case11 | case13 | case14 =>
      exact absurd h faultAt_ne_ok
  | case2 done rest =>
      simp only [Except.ok.injEq, Prod.mk.injEq] at h
      exact ⟨[0x22], by rw [h.2]; rfl, fun other => by rw [← h.1]; rfl⟩
  | case6 done a b c d n first high low e f g k rest m second lowSecond ih =>
      refine (ih h).cons [0x5C, 0x75, a, b, c, d, 0x5C, 0x75, e, f, g, k] fun bs => ?_
      simp only [List.cons_append, List.nil_append, readTextOctets, first, second, high, low,
        lowSecond, Bool.false_eq_true, if_true, if_false]
  | case8 => exact absurd h unpaired_ne_ok
  | case9 done a b c d rest n unit low high ih =>
      refine (ih h).cons [0x5C, 0x75, a, b, c, d] fun bs => ?_
      exact readTextOctets_unit unit (Bool.not_eq_true _ ▸ low) (Bool.not_eq_true _ ▸ high)
  | case12 done b rest _ unit e short ih =>
      exact (ih h).cons [0x5C, b] fun bs => readTextOctets_short (fun same => unit same) short
  | case15 done b rest quote _ _ escape last printable ih =>
      have backslash : b ≠ 0x5C := by
        intro same
        cases rest with
        | nil => exact last same rfl
        | cons c rest => exact escape c rest same rfl
      exact (ih h).cons [b] fun bs =>
        readTextOctets_octet ⟨UInt8.not_lt.mp printable, fun same => quote same, backslash⟩

/-- A text is read without a look at what follows. -/
theorem taken_readText {bs rest : Octets} {s : String} (h : readText bs = .ok (s, rest)) :
    Taken readText (fun other => (s, other)) bs rest := by
  rcases bind_eq_ok h with ⟨⟨decoded, behind⟩, octets, text⟩
  rcases taken_readTextOctets octets with ⟨front, hbs, hread⟩
  simp only at text
  cases hdecoded : Text.ofOctets? decoded with
  | none => simp only [hdecoded, reduceCtorEq] at text
  | some decodedText =>
      simp only [hdecoded, Except.ok.injEq, Prod.mk.injEq] at text
      rcases text with ⟨rfl, rfl⟩
      refine ⟨front, hbs, fun other => ?_⟩
      simp only [readText, hread, bind, Except.bind, hdecoded]

theorem skipText_octet {b : UInt8} (quote : b ≠ 0x22) (backslash : b ≠ 0x5C)
    (printable : ¬ b < 0x20) (rest : Octets) : skipText (b :: rest) = skipText rest := by
  rw [skipText, if_neg printable]
  · exact fun same => quote same
  · exact fun _ _ _ _ _ same => absurd same backslash
  · exact fun _ same => absurd same backslash
  · exact fun _ _ same => absurd same backslash
  · exact fun same => absurd same backslash

theorem taken_skipText {bs rest : Octets} (h : skipText bs = .ok rest) :
    Taken skipText id bs rest := by
  fun_induction skipText bs with
  | case1 | case3 | case5 | case6 | case8 | case9 => exact absurd h faultAt_ne_ok
  | case2 behind =>
      simp only [Except.ok.injEq] at h
      exact ⟨[0x22], by rw [h]; rfl, fun other => rfl⟩
  | case4 a b c d behind n unit ih =>
      refine (ih h).cons [0x5C, 0x75, a, b, c, d] fun bs => ?_
      simp only [List.cons_append, List.nil_append, skipText, unit]
  | case7 b behind _ unit e short ih =>
      refine (ih h).cons [0x5C, b] fun bs => ?_
      rw [List.cons_append, List.singleton_append, skipText, short]
      · exact fun _ _ _ _ _ same => absurd same unit
      · exact fun same => absurd same unit
  | case10 b behind quote _ _ escape last printable ih =>
      have backslash : b ≠ 0x5C := by
        intro same
        cases behind with
        | nil => exact last same rfl
        | cons c behind => exact escape c behind same rfl
      exact (ih h).cons [b] (skipText_octet quote backslash printable)

/-! ## Entries -/

theorem wantText_eq_ok {wanted : String} {bs rest : Octets} {s : String}
    (h : wantText wanted bs = .ok (s, rest)) :
    ∃ behind, skipBlanks bs = 0x22 :: behind ∧ readText behind = .ok (s, rest) := by
  unfold wantText at h
  split at h
  · next behind start => exact ⟨behind, start, h⟩
  · exact absurd h refuse_ne_ok

theorem taken_wantText {wanted : String} {bs rest : Octets} {s : String}
    (h : wantText wanted bs = .ok (s, rest)) :
    Taken (wantText wanted) (fun other => (s, other)) bs rest := by
  rcases wantText_eq_ok h with ⟨behind, start, text⟩
  refine (taken_readText text).blanks start fun bs other start => ?_
  rw [wantText, start]
  rfl

theorem map_eq_ok {read : Except E α} {f : α → β} {b : β} (h : read.map f = .ok b) :
    ∃ a, read = .ok a ∧ f a = b := by
  cases read with
  | error fault => exact absurd h (by simp only [Except.map, reduceCtorEq, not_false_eq_true])
  | ok a => exact ⟨a, rfl, Except.ok.inj h⟩

theorem taken_wantTextOrNull {wanted : String} {bs rest : Octets} {s? : Option String}
    (h : wantTextOrNull wanted bs = .ok (s?, rest)) :
    Taken (wantTextOrNull wanted) (fun other => (s?, other)) bs rest := by
  unfold wantTextOrNull at h
  split at h
  · next behind start =>
      rcases map_eq_ok h with ⟨left, word, same⟩
      simp only [Prod.mk.injEq] at same
      rcases same with ⟨rfl, rfl⟩
      refine ((taken_readWord word).map _).blanks start fun bs other start => ?_
      rw [wantTextOrNull, start]
      rfl
  · -- What is not `null` has to be a text, and that starts with a quote.
    rcases map_eq_ok h with ⟨⟨s, left⟩, text, same⟩
    simp only [Prod.mk.injEq] at same
    rcases same with ⟨rfl, rfl⟩
    rcases wantText_eq_ok text with ⟨behind, quote, inside⟩
    rw [skipBlanks_skipBlanks] at quote
    refine ((taken_readText inside).map fun read => (some read.1, read.2)).blanks quote
      fun bs other start => ?_
    rw [wantTextOrNull, start]
    change (wantText wanted (0x22 :: other)).map _ = _
    rw [wantText_quote]

theorem taken_wantBool {wanted : String} {bs rest : Octets} {b : Bool}
    (h : wantBool wanted bs = .ok (b, rest)) :
    Taken (wantBool wanted) (fun other => (b, other)) bs rest := by
  unfold wantBool at h
  split at h
  · next behind start =>
      rcases map_eq_ok h with ⟨left, word, same⟩
      simp only [Prod.mk.injEq] at same
      rcases same with ⟨rfl, rfl⟩
      refine ((taken_readWord word).map _).blanks start fun bs other start => ?_
      rw [wantBool, start]
      rfl
  · next behind start =>
      rcases map_eq_ok h with ⟨left, word, same⟩
      simp only [Prod.mk.injEq] at same
      rcases same with ⟨rfl, rfl⟩
      refine ((taken_readWord word).map _).blanks start fun bs other start => ?_
      rw [wantBool, start]
      rfl
  · exact absurd h refuse_ne_ok

end

end Json
end Rulebook

import Rulebook.Proofs.Json.Skip
import Rulebook.Record.Reader

/-!
# How Far a Record Reaches

A record ends with its closing bracket, and what stands behind that bracket is
not looked at. So a record is read off the front of a text exactly if some front
part of the text is a record by itself; the rest may be anything. This is what
separates the two ways in which records are read: a reader of whole texts insists
that the rest is blank, and the reader of payloads does not.

Members are read in rounds, like open brackets. A member has a name, so every
round reads something and the rounds suffice in front of a shorter text too.

## Main definitions

* `readMember`: Reads a member behind its name.

## Theorems

* `taken_readEntry`: An entry stops by itself.
* `front_readMembers`, `front_readItems`: Entries up to the closing bracket.
* `taken_readRecord`: A record stops by itself.
* `exists_readRecord_iff`: What it means that a record is read off the front.
-/

namespace Rulebook
namespace Record

open Json
open Text (Octets)

/-- An entry stops by itself. -/
theorem taken_readEntry {kind : Kind} {bs rest : Octets} {entry : kind.Entry}
    (h : readEntry kind bs = .ok (entry, rest)) :
    Taken (readEntry kind) (fun other => (entry, other)) bs rest := by
  cases kind with
  | text => exact taken_wantText h
  | textOrNull => exact taken_wantTextOrNull h
  | flag => exact taken_wantBool h
  | time =>
      rcases bind_eq_ok h with ⟨⟨s, left⟩, text, meaning⟩
      simp only at meaning
      cases hread : Instant.read s with
      | error fault =>
          rw [hread] at meaning
          exact absurd meaning faultAt_ne_ok
      | ok time =>
          simp only [hread, Except.ok.injEq, Prod.mk.injEq] at meaning
          rcases meaning with ⟨rfl, rfl⟩
          rcases taken_wantText text with ⟨front, hbs, hwant⟩
          refine ⟨front, hbs, fun other => ?_⟩
          simp only [readEntry, hwant, bind, Except.bind, hread]

theorem placed_eq_ok {α : Type} {read : Except Fault α} {a : α} (h : placed read = .ok a) :
    read = .ok a := by
  cases read with
  | error fault => exact absurd h (by simp only [placed, reduceCtorEq, not_false_eq_true])
  | ok b => rw [Except.ok.inj h]

theorem within_eq_ok {α : Type} {member : String} {read : Except Fault α} {a : α}
    (h : within member read = .ok a) : read = .ok a := by
  cases read with
  | error fault => exact absurd h (by simp only [within, reduceCtorEq, not_false_eq_true])
  | ok b => rw [Except.ok.inj h]

/-! ## Between the entries -/

theorem taken_readColon {bs rest : Octets} (h : readColon bs = .ok rest) :
    Taken readColon id bs rest := by
  unfold readColon at h
  split at h
  · exact absurd h faultAt_ne_ok
  · next behind start =>
      rcases Except.ok.inj h with rfl
      rcases skipBlanks_eq_cons start with ⟨blanks, hbs, hskip⟩
      refine ⟨blanks ++ [0x3A], by rw [hbs, List.append_assoc]; rfl, fun other => ?_⟩
      rw [List.append_assoc, List.singleton_append, readColon, hskip]
      rfl
  · exact absurd h faultOver_ne_ok

theorem nextMember_skipBlanks (first : Bool) (bs : Octets) :
    nextMember first bs = nextMember first (skipBlanks bs) := by
  unfold nextMember
  rw [skipBlanks_skipBlanks]

-- The octets up to the name of the next member.
theorem taken_nextMember {first : Bool} {bs rest : Octets}
    (h : nextMember first bs = .ok (some rest)) : Taken (nextMember first) some bs rest := by
  unfold nextMember at h
  split at h
  · exact absurd h faultAt_ne_ok
  · exact absurd h (by simp only [Except.ok.injEq, reduceCtorEq, not_false_eq_true])
  · next b behind _ start =>
      cases first with
      | true =>
          simp only [if_true] at h
          split at h
          · next quote =>
              subst quote
              simp only [Except.ok.injEq, Option.some.injEq] at h
              subst h
              -- The quote that opens the name is passed over, and nothing behind it
              -- is looked at.
              have passed : Taken (E := Fault) (fun bs => .ok (some bs)) some behind behind :=
                ⟨[], rfl, fun other => rfl⟩
              refine passed.blanks start fun bs other start => ?_
              rw [nextMember, start]
              rfl
          · exact absurd h faultOver_ne_ok
      | false =>
          simp only [Bool.false_eq_true, if_false] at h
          split at h
          · next comma =>
              subst comma
              split at h
              · exact absurd h faultAt_ne_ok
              · next name quote =>
                  simp only [Except.ok.injEq, Option.some.injEq] at h
                  subst h
                  have passed : Taken (E := Fault) (fun bs => .ok (some bs)) some name name :=
                    ⟨[], rfl, fun other => rfl⟩
                  -- Behind a comma the same holds once more, behind further blanks.
                  have afterComma :
                      Taken (fun bs => nextMember false (0x2C :: bs)) some behind name :=
                    passed.blanks quote fun bs other start => by
                      simp only [nextMember, skipBlanks_of_not_blank (b := 0x2C) rfl, start,
                        Bool.false_eq_true, if_true, if_false]
                  exact afterComma.blanks start fun bs other start => by
                    rw [nextMember_skipBlanks, start]
              · exact absurd h faultOver_ne_ok
              · exact absurd h faultOver_ne_ok
          · exact absurd h faultOver_ne_ok

-- Where no member follows, the object closes.
theorem nextMember_eq_none {first : Bool} {bs : Octets} (h : nextMember first bs = .ok none) :
    ∃ rest, skipBlanks bs = 0x7D :: rest := by
  unfold nextMember at h
  split at h
  · exact absurd h faultAt_ne_ok
  · next rest start => exact ⟨rest, start⟩
  · next b behind _ start =>
      cases first with
      | true =>
          simp only [if_true] at h
          split at h
          · exact absurd h (by simp only [Except.ok.injEq, reduceCtorEq, not_false_eq_true])
          · exact absurd h faultOver_ne_ok
      | false =>
          simp only [Bool.false_eq_true, if_false] at h
          split at h
          · -- Behind a comma an object does not close.
            split at h
            · exact absurd h faultAt_ne_ok
            · exact absurd h (by simp only [Except.ok.injEq, reduceCtorEq, not_false_eq_true])
            · exact absurd h faultOver_ne_ok
            · exact absurd h faultOver_ne_ok
          · exact absurd h faultOver_ne_ok

-- Where no item follows, the list closes.
theorem nextItem_eq_none {first : Bool} {bs : Octets} (h : nextItem first bs = .ok none) :
    ∃ rest, skipBlanks bs = 0x5D :: rest := by
  unfold nextItem at h
  split at h
  · exact absurd h faultAt_ne_ok
  · next rest start => exact ⟨rest, start⟩
  · split at h
    · exact absurd h (by simp only [Except.ok.injEq, reduceCtorEq, not_false_eq_true])
    · split at h
      · -- Behind a comma a list does not close.
        split at h
        · exact absurd h faultAt_ne_ok
        · exact absurd h faultOver_ne_ok
        · exact absurd h (by simp only [Except.ok.injEq, reduceCtorEq, not_false_eq_true])
      · exact absurd h faultOver_ne_ok

theorem nextItem_skipBlanks (first : Bool) (bs : Octets) :
    nextItem first bs = nextItem first (skipBlanks bs) := by
  unfold nextItem
  rw [skipBlanks_skipBlanks]

-- What stands alone at the start of a text is left there.
theorem takenUpTo_left {read : Octets → Except Fault (Option Octets)} {b : UInt8} {bs rest : Octets}
    (start : skipBlanks bs = b :: rest)
    (step : ∀ bs other, skipBlanks bs = b :: other → read bs = .ok (some (b :: other))) :
    TakenUpTo read some bs (b :: rest) := by
  rcases skipBlanks_eq_cons start with ⟨blanks, hbs, hskip⟩
  refine ⟨blanks, hbs, fun other like => ?_⟩
  cases other with
  | nil => exact absurd like (by simp only [List.head?_nil, List.head?_cons, reduceCtorEq,
      not_false_eq_true])
  | cons c other =>
      simp only [List.head?_cons, Option.some.injEq] at like
      subst like
      exact step _ _ (hskip other)

theorem nextItem_first {b : UInt8} {bs rest : Octets} (start : skipBlanks bs = b :: rest)
    (opened : b ≠ 0x5D) : nextItem true bs = .ok (some (b :: rest)) := by
  rw [nextItem, start]
  split
  · next none => exact absurd none (by simp only [reduceCtorEq, not_false_eq_true])
  · next same => exact absurd (List.cons.inj same).1 opened
  · next same =>
      rcases List.cons.inj same with ⟨rfl, rfl⟩
      rfl

theorem nextItem_comma {b : UInt8} {bs rest : Octets} (start : skipBlanks bs = b :: rest)
    (opened : b ≠ 0x5D) : nextItem false (0x2C :: bs) = .ok (some (b :: rest)) := by
  have comma : skipBlanks (0x2C :: bs) = 0x2C :: bs := skipBlanks_of_not_blank rfl
  unfold nextItem
  rw [comma]
  split
  · next none => exact absurd none (by simp only [reduceCtorEq, not_false_eq_true])
  · next same => exact absurd (List.cons.inj same).1 (by decide)
  · next sign behind _ same =>
    rcases List.cons.inj same with ⟨rfl, rfl⟩
    rw [if_neg Bool.false_ne_true, if_pos rfl, start]
    -- Behind the comma stands what was found there, and it does not close the list.
    split
    · next none => exact absurd none (by simp only [reduceCtorEq, not_false_eq_true])
    · next same => exact absurd (List.cons.inj same).1 opened
    · rfl

-- The octets up to the next item, whose first octet is looked at.
theorem takenUpTo_nextItem {first : Bool} {bs rest : Octets}
    (h : nextItem first bs = .ok (some rest)) : TakenUpTo (nextItem first) some bs rest := by
  unfold nextItem at h
  split at h
  · exact absurd h faultAt_ne_ok
  · exact absurd h (by simp only [Except.ok.injEq, reduceCtorEq, not_false_eq_true])
  · next b behind opened start =>
      cases first with
      | true =>
          simp only [if_true, Except.ok.injEq, Option.some.injEq] at h
          subst h
          exact takenUpTo_left start fun bs other start => nextItem_first start opened
      | false =>
          simp only [Bool.false_eq_true, if_false] at h
          split at h
          · next comma =>
              subst comma
              split at h
              · exact absurd h faultAt_ne_ok
              · exact absurd h faultOver_ne_ok
              · next empty closing =>
                  simp only [Except.ok.injEq, Option.some.injEq] at h
                  cases gap : skipBlanks behind with
                  | nil => exact absurd gap empty
                  | cons c item =>
                      -- What follows the comma is looked at, so it has to stay what
                      -- it was.
                      have afterComma :
                          TakenUpTo (fun bs => nextItem false (0x2C :: bs)) some behind
                            (c :: item) :=
                        takenUpTo_left gap fun bs other start =>
                          nextItem_comma start fun same => closing item (by rw [gap, same])
                      rw [← h, gap]
                      exact afterComma.blanks start fun bs other start => by
                        rw [nextItem_skipBlanks, start]
          · exact absurd h faultOver_ne_ok

/-! ## Members -/

/-- Reads a member behind its name: a value that nobody asked for, or an entry. -/
def readMember {α : Type} (shape : Shape α) (g : Gathered) (name : String) (bs : Octets) :
    Except Stop (Gathered × Octets) :=
  match shape.column? name with
  | none => do
    let bs ← placed (readColon bs)
    let bs ← placed (within name (skipValue bs))
    return (g, bs)
  | some key =>
    if (g key).isSome then .error (.unplaced (.repeated name) bs)
    else do
      let bs ← placed (readColon bs)
      let (entry, bs) ← placed (within name (readEntry key.kind bs))
      return (g.put key entry, bs)

theorem takenUpTo_readMember {α : Type} {shape : Shape α} {g grown : Gathered} {name : String}
    {bs rest : Octets} (h : readMember shape g name bs = .ok (grown, rest)) :
    TakenUpTo (readMember shape g name) (fun other => (grown, other)) bs rest := by
  unfold readMember at h ⊢
  cases hkey : shape.column? name with
  | none =>
      simp only [hkey] at h ⊢
      rcases bind_eq_ok h with ⟨middle, colon, behind⟩
      rcases bind_eq_ok behind with ⟨left, value, same⟩
      rcases Prod.mk.inj (Except.ok.inj same) with ⟨rfl, rfl⟩
      rcases taken_readColon (placed_eq_ok colon) with ⟨front, rfl, hcolon⟩
      rcases takenUpTo_skipValue (within_eq_ok (placed_eq_ok value)) with ⟨back, rfl, hvalue⟩
      refine ⟨front ++ back, by rw [List.append_assoc], fun other like => ?_⟩
      simp only [List.append_assoc, hcolon, id, placed, bind, Except.bind, hvalue other like,
        within]
      rfl
  | some key =>
      simp only [hkey] at h ⊢
      by_cases repeated : (g key).isSome = true
      · rw [if_pos repeated] at h
        exact absurd h (by simp only [reduceCtorEq, not_false_eq_true])
      · rw [if_neg repeated] at h
        rcases bind_eq_ok h with ⟨middle, colon, behind⟩
        rcases bind_eq_ok behind with ⟨⟨entry, left⟩, value, same⟩
        rcases Prod.mk.inj (Except.ok.inj same) with ⟨rfl, rfl⟩
        rcases taken_readColon (placed_eq_ok colon) with ⟨front, rfl, hcolon⟩
        rcases taken_readEntry (within_eq_ok (placed_eq_ok value)) with ⟨back, rfl, hvalue⟩
        refine ⟨front ++ back, by rw [List.append_assoc], fun other _ => ?_⟩
        simp only [List.append_assoc, hcolon, id, placed, bind, Except.bind, hvalue, within,
          repeated]
        rfl

theorem readMembers_none {α : Type} {shape : Shape α} {rounds : Nat} {first : Bool} {g : Gathered}
    {bs : Octets} (h : nextMember first bs = .ok none) :
    readMembers shape (rounds + 1) first g bs = .ok (g, bs) := by
  simp only [readMembers, h, placed, bind, Except.bind]

theorem readMembers_some {α : Type} {shape : Shape α} {rounds : Nat} {first : Bool} {g : Gathered}
    {bs inside left : Octets} {name : String} (next : nextMember first bs = .ok (some inside))
    (text : readText inside = .ok (name, left)) :
    readMembers shape (rounds + 1) first g bs =
      readMember shape g name left >>= fun (g, bs) => readMembers shape rounds false g bs := by
  rw [readMembers, next]
  simp only [placed, bind, Except.bind, text, readMember]
  cases shape.column? name with
  | none =>
      simp only
      cases readColon left with
      | error fault => rfl
      | ok middle =>
        cases hvalue : within name (skipValue middle) <;>
          simp only [hvalue, pure, Except.pure]
  | some key =>
      simp only
      by_cases repeated : (g key).isSome = true
      · simp only [if_pos repeated]
      · simp only [if_neg repeated]
        cases readColon left with
        | error fault => rfl
        | ok middle =>
          cases hvalue : within name (readEntry key.kind middle) <;>
            simp only [hvalue, pure, Except.pure]

/-- Members are read up to the closing brace, and a round for each octet in front
    of it is enough. -/
theorem front_readMembers {α : Type} {shape : Shape α} {rounds : Nat} :
    ∀ {first : Bool} {g grown : Gathered} {bs rest : Octets},
      readMembers shape rounds first g bs = .ok (grown, rest) →
      ∃ front behind, bs = front ++ 0x7D :: behind ∧ skipBlanks rest = 0x7D :: behind ∧
        ∀ rounds other, front.length < rounds → ∃ left,
          readMembers shape rounds first g (front ++ 0x7D :: other) = .ok (grown, left) ∧
            skipBlanks left = 0x7D :: other := by
  -- How many rounds were given is not known, but that a round for each octet is
  -- enough is part of what is shown.
  induction rounds with
  | zero => exact fun h => absurd h (by simp only [readMembers, reduceCtorEq, not_false_eq_true])
  | succ rounds ih =>
      intro first g grown bs rest h
      have whole := h
      rw [readMembers] at whole
      rcases bind_eq_ok whole with ⟨next, hnext, inner⟩
      have hnext := placed_eq_ok hnext
      cases next with
      | none =>
          -- The brace comes next: no member is read, and only blanks are passed
          -- over.
          rcases Prod.mk.inj (Except.ok.inj inner) with ⟨rfl, rfl⟩
          rcases nextMember_eq_none hnext with ⟨behind, closing⟩
          rcases skipBlanks_eq_cons closing with ⟨blanks, hbs, hskip⟩
          refine ⟨blanks, behind, hbs, closing, fun rounds other enough => ?_⟩
          refine ⟨blanks ++ 0x7D :: other, ?_, hskip other⟩
          have none : nextMember first (blanks ++ 0x7D :: other) = .ok none := by
            rw [nextMember_skipBlanks, hskip]
            rfl
          cases rounds with
          | zero => exact absurd enough (Nat.not_lt_zero _)
          | succ rounds => exact readMembers_none none
      | some inside =>
          -- One member is read, which takes a round, and the rest by the induction.
          rcases bind_eq_ok inner with ⟨⟨name, left⟩, text, -⟩
          have text := placed_eq_ok text
          rw [readMembers_some hnext text] at h
          rcases bind_eq_ok h with ⟨⟨larger, middle⟩, member, further⟩
          rcases taken_nextMember hnext with ⟨start, rfl, hstart⟩
          rcases taken_readText text with ⟨named, rfl, hname⟩
          rcases takenUpTo_readMember member with ⟨value, rfl, hvalue⟩
          rcases ih further with ⟨back, behind, rfl, closing, hback⟩
          -- A name is never empty: at the end of a text none is read.
          have nonempty : named ≠ [] := by
            rintro rfl
            exact faultAt_ne_ok (hname [])
          refine ⟨start ++ (named ++ (value ++ back)), behind, ?_, closing, ?_⟩
          · simp only [List.append_assoc]
          · intro rounds other enough
            have shorter : back.length + 1 < rounds := by
              have := List.length_pos_of_ne_nil nonempty
              simp only [List.length_append] at enough
              omega
            cases rounds with
            | zero => exact absurd shorter (Nat.not_lt_zero _)
            | succ rounds =>
                rcases hback rounds other (by omega) with ⟨left, hread, hclose⟩
                refine ⟨left, ?_, hclose⟩
                simp only [List.append_assoc]
                rw [readMembers_some (hstart _) (hname _)]
                have like : (back ++ 0x7D :: other).head? = (back ++ 0x7D :: behind).head? :=
                  head?_append_congr rfl
                rw [hvalue _ like]
                exact hread

/-! ## Items -/

-- Where a bracket comes first behind blanks, it does so however the text goes on
-- behind any of its brackets.
theorem skipBlanks_closing {front behind rest : Octets}
    (h : skipBlanks (front ++ 0x5D :: behind) = 0x5D :: rest) (other : Octets) :
    ∃ rest, skipBlanks (front ++ 0x5D :: other) = 0x5D :: rest := by
  induction front with
  | nil => exact ⟨other, skipBlanks_of_not_blank rfl⟩
  | cons c front ih =>
      cases blank : isBlank c with
      | true =>
          have passed : ∀ bs, skipBlanks (c :: bs) = skipBlanks bs := fun bs =>
            List.dropWhile_cons_of_pos blank
          rw [List.cons_append, passed] at h ⊢
          exact ih h
      | false =>
          rw [List.cons_append, skipBlanks_of_not_blank blank] at h ⊢
          exact ⟨front ++ 0x5D :: other, by rw [(List.cons.inj h).1]⟩

-- Where the list closes it does so however the text goes on behind any bracket.
theorem nextItem_closing {first : Bool} {front behind : Octets}
    (h : nextItem first (front ++ 0x5D :: behind) = .ok none) (other : Octets) :
    nextItem first (front ++ 0x5D :: other) = .ok none := by
  rcases nextItem_eq_none h with ⟨_, closes⟩
  rcases skipBlanks_closing closes other with ⟨_, closes⟩
  rw [nextItem_skipBlanks, closes]
  rfl

/-- Items are read up to the closing bracket. -/
theorem front_readItems {α : Type} {shape : Shape α} {keys : List Key} {rest behind : Octets}
    (closing : skipBlanks rest = 0x5D :: behind) :
    ∀ {index : Nat} {g grown : Gathered} {bs : Octets},
      readItems shape index keys g bs = .ok (grown, rest) →
      ∃ front, bs = front ++ 0x5D :: behind ∧ ∀ other, ∃ left,
        readItems shape index keys g (front ++ 0x5D :: other) = .ok (grown, left) ∧
          skipBlanks left = 0x5D :: other := by
  induction keys with
  | nil =>
      intro index g grown bs h
      rcases Prod.mk.inj (Except.ok.inj h) with ⟨rfl, rfl⟩
      rcases skipBlanks_eq_cons closing with ⟨blanks, hbs, hskip⟩
      exact ⟨blanks, hbs, fun other => ⟨blanks ++ 0x5D :: other, rfl, hskip other⟩⟩
  | cons key keys ih =>
      intro index g grown bs h
      rw [readItems] at h
      rcases bind_eq_ok h with ⟨next, hnext, inner⟩
      have hnext := placed_eq_ok hnext
      cases next with
      | none =>
          simp only at inner
          -- The list ends early, which is well if the record may lack the entry.
          by_cases lack : shape.mayLack key = true
          · rw [if_pos lack] at inner
            rcases ih inner with ⟨front, rfl, hread⟩
            refine ⟨front, rfl, fun other => ?_⟩
            rcases hread other with ⟨left, hleft, hclose⟩
            have none := nextItem_closing hnext other
            refine ⟨left, ?_, hclose⟩
            simp only [readItems, none, placed, bind, Except.bind, lack, if_true]
            exact hleft
          · rw [if_neg lack] at inner
            exact absurd inner (by simp only [reduceCtorEq, not_false_eq_true])
      | some item =>
          simp only at inner
          -- An entry is read, up to what comes first behind it, and the rest by the
          -- induction.
          rcases bind_eq_ok inner with ⟨⟨entry, middle⟩, read, further⟩
          rcases takenUpTo_nextItem hnext with ⟨start, rfl, hstart⟩
          rcases taken_readEntry (within_eq_ok (placed_eq_ok read)) with ⟨value, rfl, hvalue⟩
          rcases ih further with ⟨back, rfl, hback⟩
          refine ⟨start ++ (value ++ back), by simp only [List.append_assoc], fun other => ?_⟩
          rcases hback other with ⟨left, hleft, hclose⟩
          have like : (value ++ (back ++ 0x5D :: other)).head? =
              (value ++ (back ++ 0x5D :: behind)).head? :=
            head?_append_congr (head?_append_congr rfl)
          refine ⟨left, ?_, hclose⟩
          simp only [List.append_assoc, readItems, hstart _ like, placed, bind, Except.bind, within,
            hvalue]
          exact hleft

/-! ## Records -/

theorem closeObject_eq_ok {bs rest : Octets} (h : closeObject bs = .ok rest) :
    skipBlanks bs = 0x7D :: rest := by
  unfold closeObject at h
  split at h
  · exact absurd h faultAt_ne_ok
  · next closing => rw [closing, Except.ok.inj h]
  · exact absurd h faultOver_ne_ok
  · exact absurd h faultOver_ne_ok

theorem closeList_eq_ok {bs rest : Octets} (h : closeList bs = .ok rest) :
    skipBlanks bs = 0x5D :: rest := by
  unfold closeList at h
  split at h
  · exact absurd h faultAt_ne_ok
  · next closing => rw [closing, Except.ok.inj h]
  · split at h
    · exact absurd h faultOver_ne_ok
    · exact absurd h faultOver_ne_ok
  · exact absurd h faultOver_ne_ok

theorem leaving_eq_ok {α : Type} {close : Octets → Except Fault Octets} {leave : Octets → Octets}
    {read : Except Stop (α × Octets)} {value : α} {rest : Octets}
    (h : leaving close leave read = .ok (value, rest)) :
    ∃ left, read = .ok (value, left) ∧ close left = .ok rest := by
  cases read with
  | error stop =>
      cases stop with
      | placed fault => exact absurd h (by simp only [leaving, reduceCtorEq, not_false_eq_true])
      | unplaced cause bs => exact absurd h faultAt_ne_ok
  | ok made =>
      rcases made with ⟨made, left⟩
      rcases map_eq_ok h with ⟨behind, closed, same⟩
      rcases Prod.mk.inj same with ⟨rfl, rfl⟩
      exact ⟨left, rfl, closed⟩

theorem finish_eq_ok {α : Type} {shape : Shape α} {g : Gathered} {bs left : Octets} {value : α}
    (h : finish shape (g, bs) = .ok (value, left)) : shape.build g = .ok value ∧ bs = left := by
  cases build : shape.build g with
  | error key =>
      simp only [finish, build] at h
      exact absurd h (by simp only [reduceCtorEq, not_false_eq_true])
  | ok made =>
      simp only [finish, build, Except.ok.injEq, Prod.mk.injEq] at h
      exact ⟨by rw [h.1], h.2⟩

theorem readRecord_list {α : Type} {shape : Shape α} {bs inside : Octets}
    (start : skipBlanks bs = 0x5B :: inside) :
    readRecord shape bs =
      leaving closeList leaveList
        (readItems shape 0 shape.columns .empty inside >>= finish shape) := by
  rw [readRecord, start]
  rfl

theorem readRecord_object {α : Type} {shape : Shape α} {bs inside : Octets}
    (start : skipBlanks bs = 0x7B :: inside) :
    readRecord shape bs =
      leaving closeObject leaveObject
        (readMembers shape (inside.length + 1) true .empty inside >>= finish shape) := by
  rw [readRecord, start]
  rfl

-- A record that is made of what has been gathered, up to its closing bracket.
theorem leaving_finish {α : Type} {shape : Shape α} {close : Octets → Except Fault Octets}
    {leave : Octets → Octets} {g : Gathered} {left rest : Octets} {value : α}
    (build : shape.build g = .ok value) (closed : close left = .ok rest) :
    leaving close leave ((.ok (g, left) : Except Stop (Gathered × Octets)) >>= finish shape) =
      .ok (value, rest) := by
  simp only [bind, Except.bind, finish, build, leaving, closed, Except.map]

/-- A record stops by itself. -/
theorem taken_readRecord {α : Type} {shape : Shape α} {bs rest : Octets} {value : α}
    (h : readRecord shape bs = .ok (value, rest)) :
    Taken (readRecord shape) (fun other => (value, other)) bs rest := by
  unfold readRecord at h
  split at h
  · next inside start =>
      rcases leaving_eq_ok h with ⟨left, read, closed⟩
      rcases bind_eq_ok read with ⟨⟨g, middle⟩, items, finished⟩
      rcases finish_eq_ok finished with ⟨build, rfl⟩
      rcases front_readItems (closeList_eq_ok closed) items with ⟨front, rfl, hread⟩
      rcases skipBlanks_eq_cons start with ⟨blanks, rfl, hskip⟩
      -- A list is taken with its brackets, and the blanks in front of it.
      refine ⟨blanks ++ 0x5B :: (front ++ [0x5D]), ?_, fun other => ?_⟩
      · simp only [List.append_assoc, List.cons_append, List.nil_append]
      · rcases hread other with ⟨left, hleft, hclose⟩
        have closes : closeList left = .ok other := by
          rw [closeList, hclose]
          rfl
        simp only [List.append_assoc, List.cons_append, List.nil_append]
        rw [readRecord_list (hskip _), hleft]
        exact leaving_finish build closes
  · next inside start =>
      rcases leaving_eq_ok h with ⟨left, read, closed⟩
      rcases bind_eq_ok read with ⟨⟨g, middle⟩, members, finished⟩
      rcases finish_eq_ok finished with ⟨build, rfl⟩
      rcases front_readMembers members with ⟨front, behind, rfl, closing, hread⟩
      obtain rfl : behind = rest := by
        have same := closing.symm.trans (closeObject_eq_ok closed)
        exact (List.cons.inj same).2
      rcases skipBlanks_eq_cons start with ⟨blanks, rfl, hskip⟩
      -- So is an object. It has a round for every octet, hence enough for its
      -- front.
      refine ⟨blanks ++ 0x7B :: (front ++ [0x7D]), ?_, fun other => ?_⟩
      · simp only [List.append_assoc, List.cons_append, List.nil_append]
      · have enough : front.length < (front ++ 0x7D :: other).length + 1 := by
          rw [List.length_append]
          omega
        rcases hread _ other enough with ⟨left, hleft, hclose⟩
        have closes : closeObject left = .ok other := by
          rw [closeObject, hclose]
          rfl
        simp only [List.append_assoc, List.cons_append, List.nil_append]
        rw [readRecord_object (hskip _), hleft]
        exact leaving_finish build closes
  · exact absurd h refuse_ne_ok

theorem parseRecord_eq_ok_iff {α : Type} {shape : Shape α} {bs : Octets} {value : α} :
    parseRecord shape bs = .ok value ↔
      ∃ rest, readRecord shape bs = .ok (value, rest) ∧ skipBlanks rest = [] := by
  constructor
  · intro h
    rcases bind_eq_ok h with ⟨⟨made, rest⟩, read, atEnd⟩
    simp only at atEnd
    cases blank : skipBlanks rest with
    | nil =>
        rw [blank] at atEnd
        exact ⟨rest, by rw [read, Except.ok.inj atEnd], blank⟩
    | cons b stray =>
        rw [blank] at atEnd
        exact absurd atEnd faultOver_ne_ok
  · rintro ⟨rest, read, blank⟩
    simp only [parseRecord, read, bind, Except.bind, blank]

/-- A record is read off the front of a text exactly if some front part of the
    text is the record by itself. -/
theorem exists_readRecord_iff {α : Type} {shape : Shape α} {bs : Octets} {value : α} :
    (∃ rest, readRecord shape bs = .ok (value, rest)) ↔
      ∃ document stray, bs = document ++ stray ∧ parseRecord shape document = .ok value := by
  constructor
  · rintro ⟨rest, read⟩
    rcases taken_readRecord read with ⟨document, hbs, hread⟩
    -- By itself, the record ends where the text does.
    have alone := hread []
    rw [List.append_nil] at alone
    exact ⟨document, rest, hbs, parseRecord_eq_ok_iff.2 ⟨[], alone, rfl⟩⟩
  · rintro ⟨document, stray, rfl, parse⟩
    rcases parseRecord_eq_ok_iff.1 parse with ⟨rest, read, -⟩
    rcases taken_readRecord read with ⟨front, rfl, hread⟩
    exact ⟨rest ++ stray, by rw [List.append_assoc]; exact hread (rest ++ stray)⟩

end Record
end Rulebook

import Rulebook.Proofs.Json.Literal
import Rulebook.Proofs.Json.Number

/-!
# Every Value Is Passed Over

A value that nobody asked for is passed over whole, however it is written and however
deep it is nested, and what is behind it is left. The reader keeps open brackets in a
list, so the induction is on the tree: each value is passed over inside whatever
brackets are open, if what comes behind it is.

Inside brackets a comma or a bracket follows, which no number goes on with; so of a
value in the open it has to be said, and of those inside it nothing.

## Main definitions

* `Written.first`: The first octet of a value.
* `PassedFrom`, `PassedBehind`: What is passed over in front of a value and behind one.
* `memberOctets`: A member from behind the opening quote of its name on.

## Theorems

* `Written.octets_eq_first`, `Written.first_visible`: How a value begins.
* `Written.passed`, `Items.passed`, `Members.passed`: A value is passed over inside
  brackets.
* `skipValue_octets`: So is any value.
-/

namespace Rulebook
namespace Json

open Text (Octets)

/-! ## First octets -/

def Whole.first : Whole → UInt8
  | zero => 0x30
  | digits ds _ => ds.first.octet

def Number.first (n : Number) : UInt8 :=
  if n.negative then 0x2D else n.whole.first

/-- The first octet of a value, which says of what kind it is. -/
def Written.first : Written → UInt8
  | .null => 0x6E
  | .bool true => 0x74
  | .bool false => 0x66
  | .number n => n.first
  | .text _ => 0x22
  | .list _ => 0x5B
  | .object _ => 0x7B

theorem Whole.isDigit_first (whole : Whole) : isDigit whole.first = true := by
  cases whole with
  | zero => rfl
  | digits ds positive => exact isDigit_octet ds.first

theorem Number.first_spec (n : Number) : n.first = 0x2D ∨ isDigit n.first = true := by
  rw [first]
  cases n.negative with
  | true => exact .inl rfl
  | false => exact .inr n.whole.isDigit_first

-- A digit or a minus is none of the other octets that a value may start with.
theorem first_number {b : UInt8} (h : b = 0x2D ∨ isDigit b = true) :
    isBlank b = false ∧ b ∉ [0x22, 0x2C, 0x5B, 0x5D, 0x66, 0x6E, 0x74, 0x7B, 0x7D] := by
  have all : ∀ b : UInt8, b = 0x2D ∨ isDigit b = true →
      isBlank b = false ∧ b ∉ [0x22, 0x2C, 0x5B, 0x5D, 0x66, 0x6E, 0x74, 0x7B, 0x7D] :=
    Text.forall_octet (by decide +kernel)
  exact all b h

theorem Written.octets_eq_first (v : Written) : ∃ rest, v.octets = v.first :: rest := by
  cases v with
  | null | text _ | list _ | object _ => exact ⟨_, rfl⟩
  | bool b => cases b <;> exact ⟨_, rfl⟩
  | number n =>
    rw [Written.octets, Number.octets, first, Number.first]
    cases n.negative with
    | true => exact ⟨_, rfl⟩
    | false =>
      cases n.whole with
      | zero => exact ⟨_, rfl⟩
      | digits ds positive => exact ⟨_, rfl⟩

/-- A value starts with no blank, no comma and no closing bracket. -/
theorem Written.first_visible (v : Written) :
    isBlank v.first = false ∧ v.first ∉ [0x2C, 0x5D, 0x7D] := by
  cases v with
  | null | text _ | list _ | object _ =>
    rw [first]
    decide
  | bool b => cases b <;> decide
  | number n =>
    rcases first_number n.first_spec with ⟨blank, other⟩
    simp only [List.mem_cons, List.not_mem_nil, or_false, not_or] at other ⊢
    exact ⟨blank, other.2.1, other.2.2.2.1, other.2.2.2.2.2.2.2.2⟩

@[simp] theorem skipBlanks_octets (v : Written) (bs : Octets) :
    skipBlanks (v.octets ++ bs) = v.octets ++ bs := by
  rcases v.octets_eq_first with ⟨rest, octets⟩
  rw [octets, List.cons_append, skipBlanks_of_not_blank v.first_visible.1]

/-! ## What is passed over -/

/-- In front of a value some rounds are enough to pass over it, and over all that is
    open around it. -/
def PassedFrom (opened : List Bracket) (bs rest : Octets) : Prop :=
  ∃ rounds, skipOpen rounds opened bs = .ok rest

/-- Inside open brackets, behind a value or behind the innermost bracket itself, some
    rounds are enough to pass over all that is open. -/
def PassedBehind (filled : Bool) (opened : List Bracket) (bs rest : Octets) : Prop :=
  ∃ rounds, (closeBrackets filled opened bs >>= resume rounds) = .ok rest

section

variable {opened : List Bracket} {bs rest : Octets}

-- Blanks in front of a value make no difference.
theorem PassedFrom.gap (h : PassedFrom opened bs rest) (gap : Gap) :
    PassedFrom opened (gap.octets ++ bs) rest := by
  rcases h with ⟨rounds, h⟩
  refine ⟨rounds, ?_⟩
  cases rounds with
  | nil => exact absurd h faultAt_ne_ok
  | cons round rounds =>
    rw [skipOpen, skipBlanks_gap]
    rw [skipOpen] at h
    exact h

-- A value takes one round, from its first octet on.
theorem passedFrom_of_enter {v : Written} {behind : Octets} (octets : v.octets = v.first :: behind)
    {filled : Bool} {left : List Bracket} {middle : Octets}
    (enters : enter opened v.first (behind ++ bs) = closeBrackets filled left middle)
    (h : PassedBehind filled left middle rest) : PassedFrom opened (v.octets ++ bs) rest := by
  rcases h with ⟨rounds, h⟩
  refine ⟨0 :: rounds, ?_⟩
  have start : skipBlanks (v.octets ++ bs) = v.first :: (behind ++ bs) := by
    rw [skipBlanks_octets, octets, List.cons_append]
  rw [skipOpen_cons _ _ _ start, enters]
  exact h

/-! ## Values without brackets -/

theorem enter_scalar {b : UInt8} {behind : Octets} (list : b ≠ 0x5B) (object : b ≠ 0x7B)
    (skip : skipScalar b behind = .ok bs) :
    enter opened b behind = closeBrackets true opened bs := by
  rw [enter, if_neg list, if_neg object, skip]
  rfl

theorem skipScalar_number {n : Number} {behind : Octets}
    (octets : n.octets = n.first :: behind) (stops : Stops bs) :
    skipScalar n.first (behind ++ bs) = .ok bs := by
  have passed := skipDigits_octets n stops
  rw [Number.octets] at octets
  rw [Number.first] at octets ⊢
  cases negative : n.negative with
  | true =>
    simp only [negative, if_true, List.singleton_append, List.cons.injEq, true_and] at octets
    rw [if_pos rfl, ← octets, List.append_assoc, List.append_assoc]
    exact passed
  | false =>
    simp only [negative, Bool.false_eq_true, if_false, List.nil_append] at octets
    -- A digit is the first octet of no other value.
    have digit := n.whole.isDigit_first
    have other := (first_number (.inr digit)).2
    simp only [List.mem_cons, List.not_mem_nil, or_false, not_or] at other
    rw [if_neg Bool.false_ne_true, skipScalar, if_neg other.2.2.2.2.2.1,
      if_neg other.2.2.2.2.2.2.1, if_neg other.2.2.2.2.1, if_neg other.1, if_neg ?_, if_pos digit,
      ← List.cons_append, ← octets, List.append_assoc, List.append_assoc]
    · exact passed
    · intro minus
      rw [minus] at digit
      exact absurd digit (by decide)

/-! ## Brackets -/

theorem closeBrackets_close (filled : Bool) (inner : Bracket) (outer : List Bracket) (gap : Gap)
    (bs : Octets) : closeBrackets filled (inner :: outer) (gap.octets ++ inner.closing :: bs) =
      closeBrackets true outer bs := by
  have visible : isBlank inner.closing = false := by cases inner <;> rfl
  have noComma : ¬ (filled = true ∧ inner.closing = 0x2C) := by
    cases inner <;> exact fun h => absurd h.2 (by decide)
  rw [closeBrackets, skipBlanks_gap, skipBlanks_of_not_blank visible]
  simp only
  rw [if_neg noComma, if_pos trivial]

theorem closeBrackets_comma (inner : Bracket) (outer : List Bracket) (gap : Gap) (bs : Octets) :
    closeBrackets true (inner :: outer) (gap.octets ++ 0x2C :: bs) = .ok (inner :: outer, bs) := by
  rw [closeBrackets, skipBlanks_gap, skipBlanks_of_not_blank rfl]
  rfl

-- Behind an opening bracket stands what it holds first.
theorem closeBrackets_first {inner : Bracket} {b : UInt8} {bs behind : Octets}
    (start : skipBlanks bs = b :: behind) (content : b ≠ inner.closing) (outer : List Bracket) :
    closeBrackets false (inner :: outer) bs = .ok (inner :: outer, b :: behind) := by
  rw [closeBrackets, start]
  simp only
  rw [if_neg (by simp only [Bool.false_eq_true, false_and, not_false_eq_true]), if_neg content]
  rfl

-- Inside a list what comes next is passed over as a value.
theorem passedBehind_list {filled : Bool} {behind : Octets}
    (next : closeBrackets filled (.list :: opened) bs = .ok (.list :: opened, behind))
    (h : PassedFrom (.list :: opened) behind rest) :
    PassedBehind filled (.list :: opened) bs rest := by
  rcases h with ⟨rounds, h⟩
  refine ⟨rounds, ?_⟩
  rw [next]
  exact h

-- Inside an object a name comes first.
theorem passedBehind_object {filled : Bool} {behind value : Octets}
    (next : closeBrackets filled (.object :: opened) bs = .ok (.object :: opened, behind))
    (name : skipName behind = .ok value)
    (h : PassedFrom (.object :: opened) value rest) :
    PassedBehind filled (.object :: opened) bs rest := by
  rcases h with ⟨rounds, h⟩
  refine ⟨rounds, ?_⟩
  rw [next]
  change (skipName behind >>= skipOpen rounds (.object :: opened)) = _
  rw [name]
  exact h

theorem skipName_octets (before : Gap) (name : Literal) (colon : Gap) (bs : Octets) :
    skipName (before.octets ++ 0x22 :: (name.octets ++ 0x22 :: (colon.octets ++ 0x3A :: bs))) =
      .ok bs := by
  rw [skipName, skipBlanks_gap, skipBlanks_of_not_blank rfl]
  simp only [skipText_octets, bind, Except.bind, skipBlanks_gap]
  rw [skipBlanks_of_not_blank rfl]
  rfl

end

/-! ## Trees -/

-- Inside brackets something always follows that does not go on with a number.
theorem Items.stops (items : Items) (bs : Octets) : Stops (items.octets false ++ bs) := by
  cases items with
  | close gap =>
    rw [Items.octets, List.append_assoc]
    exact (stops_cons bs (by decide)).gap gap
  | item gap before value rest =>
    rw [Items.octets, List.append_assoc]
    exact (stops_cons _ (by decide)).gap gap

theorem Members.stops (members : Members) (bs : Octets) : Stops (members.octets false ++ bs) := by
  cases members with
  | close gap =>
    rw [Members.octets, List.append_assoc]
    exact (stops_cons bs (by decide)).gap gap
  | member gap before name colon after value rest =>
    rw [Members.octets, List.append_assoc]
    exact (stops_cons _ (by decide)).gap gap

-- What comes first inside brackets, and what comes behind a comma.
theorem Items.skipBlanks_first (gap before : Gap) (value : Written) (more : Items) (bs : Octets) :
    skipBlanks ((Items.item gap before value more).octets true ++ bs) =
      value.octets ++ (more.octets false ++ bs) := by
  rw [Items.octets, comma, List.nil_append]
  simp only [List.append_assoc, skipBlanks_gap, skipBlanks_octets]

theorem Items.octets_comma (gap before : Gap) (value : Written) (more : Items) (bs : Octets) :
    (Items.item gap before value more).octets false ++ bs =
      gap.octets ++ 0x2C :: (before.octets ++ (value.octets ++ (more.octets false ++ bs))) := by
  rw [Items.octets, comma]
  simp only [List.append_assoc, List.nil_append, List.cons_append]

/-- A member from behind the opening quote of its name on. -/
def memberOctets (name : Literal) (colon after : Gap) (value : Written) (bs : Octets) : Octets :=
  name.octets ++ 0x22 :: (colon.octets ++ 0x3A :: (after.octets ++ (value.octets ++ bs)))

theorem Members.skipBlanks_first (gap before : Gap) (name : Literal) (colon after : Gap)
    (value : Written) (more : Members) (bs : Octets) :
    skipBlanks ((Members.member gap before name colon after value more).octets true ++ bs) =
      0x22 :: memberOctets name colon after value (more.octets false ++ bs) := by
  rw [Members.octets, comma, List.nil_append, memberOctets]
  simp only [List.append_assoc, List.cons_append, skipBlanks_gap]
  exact skipBlanks_of_not_blank rfl

theorem Members.octets_comma (gap before : Gap) (name : Literal) (colon after : Gap)
    (value : Written) (more : Members) (bs : Octets) :
    (Members.member gap before name colon after value more).octets false ++ bs =
      gap.octets ++ 0x2C :: (before.octets ++
        0x22 :: memberOctets name colon after value (more.octets false ++ bs)) := by
  rw [Members.octets, comma, memberOctets]
  simp only [List.append_assoc, List.nil_append, List.cons_append]

mutual

/-- A value is passed over, inside whatever brackets are open. -/
theorem Written.passed {opened : List Bracket} {bs rest : Octets} (stops : Stops bs)
    (h : PassedBehind true opened bs rest) :
    (v : Written) → PassedFrom opened (v.octets ++ bs) rest
  | .null =>
    passedFrom_of_enter (v := .null) rfl
      (enter_scalar (by decide) (by decide) (readWord_append restOfNull bs)) h
  | .bool true =>
    passedFrom_of_enter (v := .bool true) rfl
      (enter_scalar (by decide) (by decide) (readWord_append restOfTrue bs)) h
  | .bool false =>
    passedFrom_of_enter (v := .bool false) rfl
      (enter_scalar (by decide) (by decide) (readWord_append restOfFalse bs)) h
  | .number n => by
    rcases (Written.number n).octets_eq_first with ⟨behind, octets⟩
    have other := (first_number n.first_spec).2
    simp only [List.mem_cons, List.not_mem_nil, or_false, not_or] at other
    exact passedFrom_of_enter octets
      (enter_scalar other.2.2.1 other.2.2.2.2.2.2.2.1 (skipScalar_number octets stops)) h
  | .text s => by
    refine passedFrom_of_enter (v := .text s) rfl
      (enter_scalar (b := 0x22) (by decide) (by decide) ?_) h
    rw [List.append_assoc]
    exact skipText_octets s bs
  | .list items =>
    passedFrom_of_enter (v := .list items) rfl (if_pos rfl) (items.passed h true)
  | .object members =>
    passedFrom_of_enter (v := .object members) rfl rfl (members.passed h true)

/-- The rest of a list is passed over, and what is open around it. -/
theorem Items.passed {opened : List Bracket} {bs rest : Octets}
    (h : PassedBehind true opened bs rest) :
    (items : Items) → (first : Bool) →
      PassedBehind (!first) (.list :: opened) (items.octets first ++ bs) rest
  | .close gap, first => by
    rcases h with ⟨rounds, h⟩
    refine ⟨rounds, ?_⟩
    rw [Items.octets, List.append_assoc]
    exact (congrArg (· >>= resume rounds) (closeBrackets_close ..)).trans h
  | .item gap before value more, true => by
    have inside := value.passed (more.stops bs) (more.passed h false)
    have start := Items.skipBlanks_first gap before value more bs
    rcases value.octets_eq_first with ⟨behind, octets⟩
    rw [octets, List.cons_append] at start inside
    have content : value.first ≠ Bracket.closing .list := fun same =>
      value.first_visible.2 (by rw [same]; decide)
    exact passedBehind_list (closeBrackets_first start content opened) inside
  | .item gap before value more, false => by
    have inside := value.passed (more.stops bs) (more.passed h false)
    rw [Items.octets_comma]
    exact passedBehind_list (closeBrackets_comma ..) (inside.gap before)

/-- The rest of an object is passed over, and what is open around it. -/
theorem Members.passed {opened : List Bracket} {bs rest : Octets}
    (h : PassedBehind true opened bs rest) :
    (members : Members) → (first : Bool) →
      PassedBehind (!first) (.object :: opened) (members.octets first ++ bs) rest
  | .close gap, first => by
    rcases h with ⟨rounds, h⟩
    refine ⟨rounds, ?_⟩
    rw [Members.octets, List.append_assoc]
    exact (congrArg (· >>= resume rounds) (closeBrackets_close ..)).trans h
  | .member gap before name colon after value more, true => by
    have inside := value.passed (more.stops bs) (more.passed h false)
    have start := Members.skipBlanks_first gap before name colon after value more bs
    exact passedBehind_object (closeBrackets_first start (by decide) opened)
      (skipName_octets [] name colon _) (inside.gap after)
  | .member gap before name colon after value more, false => by
    have inside := value.passed (more.stops bs) (more.passed h false)
    rw [Members.octets_comma]
    exact passedBehind_object (closeBrackets_comma ..) (skipName_octets before name colon _)
      (inside.gap after)

end

/-- Any value is passed over, in front of what does not go on with it. -/
theorem skipValue_octets (gap : Gap) (v : Written) {bs : Octets} (stops : Stops bs) :
    skipValue (gap.octets ++ (v.octets ++ bs)) = .ok bs := by
  have outside : PassedBehind true [] bs bs := ⟨[], rfl⟩
  rcases (v.passed stops outside).gap gap with ⟨rounds, passed⟩
  -- Some rounds are enough, so one for every octet is.
  rcases upTo_skipOpen passed with ⟨front, whole, hfront⟩
  rw [skipValue, whole]
  refine hfront _ bs ?_ rfl
  rw [List.length_append]
  exact Nat.le_add_right ..

end Json
end Rulebook

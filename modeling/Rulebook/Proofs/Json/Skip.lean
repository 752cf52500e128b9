import Rulebook.Proofs.Json.Front

/-!
# How Far a Value Reaches

A value that nobody asked for does not always stop by itself: a number goes on
for as long as digits follow, so the octet behind it has been looked at. That one
octet is all. `TakenUpTo` says what has been read in front of any other text that
starts with the same octet. Between brackets the octet behind a number is a comma
or the bracket, so it makes no difference how the text goes on behind those.

Open brackets are passed over in rounds, and the reader is given a round for
every octet of the text. Each round reads one octet at least, so the rounds
suffice in front of a shorter text too.

## Main definitions

* `TakenUpTo`: What is read in front of any text that starts alike.
* `enter`: Passes over a value or an opening bracket, and over what closes.

## Theorems

* `takenUpTo_skipDigits`: A number.
* `takenUpTo_closeBrackets`: Closing brackets.
* `takenUpTo_skipValue`: Any value.
-/

namespace Rulebook
namespace Json

open Text (Octets)

section

variable {E α β : Type}

/-- What stands in front of `rest` is read with the same result in front of any
    text that starts like `rest`. -/
def TakenUpTo (read : Octets → Except E β) (result : Octets → β) (bs rest : Octets) : Prop :=
  ∃ front, bs = front ++ rest ∧
    ∀ other, other.head? = rest.head? → read (front ++ other) = .ok (result other)

theorem Taken.upTo {read : Octets → Except E β} {result : Octets → β} {bs rest : Octets}
    (h : Taken read result bs rest) : TakenUpTo read result bs rest := by
  rcases h with ⟨front, hbs, hread⟩
  exact ⟨front, hbs, fun other _ => hread other⟩

theorem head?_append_congr {front rest other : Octets} (h : other.head? = rest.head?) :
    (front ++ other).head? = (front ++ rest).head? := by
  rw [List.head?_append, List.head?_append, h]

/-! ## Numbers -/

-- Digits are taken as far as they go.
theorem takeDigits_upTo {bs ds rest : Octets} (h : takeDigits bs = (ds, rest)) :
    bs = ds ++ rest ∧
      ∀ other, other.head? = rest.head? → takeDigits (ds ++ other) = (ds, other) := by
  have parts := takeDigits_append bs
  have stops : ∀ d, rest.head? = some d → isDigit d = false := by
    intro d hd
    have head := List.head?_dropWhile_not isDigit bs
    have dropped : bs.dropWhile isDigit = rest := congrArg Prod.snd h
    rw [dropped, hd] at head
    simpa only [Bool.not_eq_true] using head
  have digits : ∀ d ∈ ds, isDigit d = true := by
    have taken : bs.takeWhile isDigit = ds := congrArg Prod.fst h
    rw [← taken]
    exact List.all_eq_true.mp List.all_takeWhile
  refine ⟨by rw [h] at parts; exact parts.symm, fun other like => ?_⟩
  rw [takeDigits, List.takeWhile_append_of_pos digits, List.dropWhile_append_of_pos digits]
  cases other with
  | nil => rw [List.takeWhile_nil, List.dropWhile_nil, List.append_nil]
  | cons d other =>
      have stop : ¬ isDigit d = true := by
        rw [stops d (by rw [← like, List.head?_cons])]
        exact Bool.false_ne_true
      rw [List.takeWhile_cons_of_neg stop, List.dropWhile_cons_of_neg stop, List.append_nil]

theorem TakenUpTo.cons {read inner : Octets → Except E β} {result : Octets → β}
    {bs rest : Octets} (passed : Octets) (h : TakenUpTo inner result bs rest)
    (step : ∀ other, other.head? = bs.head? → read (passed ++ other) = inner other) :
    TakenUpTo read result (passed ++ bs) rest := by
  rcases h with ⟨front, rfl, hread⟩
  refine ⟨passed ++ front, by rw [List.append_assoc], fun other like => ?_⟩
  rw [List.append_assoc, step _ (head?_append_congr like), hread other like]

-- The digits behind the first one.
theorem takenUpTo_digits {bs rest : Octets} (h : (takeDigits bs).2 = rest) :
    TakenUpTo (fun bs => (.ok (takeDigits bs).2 : Except Fault Octets)) id bs rest := by
  rcases takeDigits_upTo (show takeDigits bs = ((takeDigits bs).1, rest) by rw [← h]) with
    ⟨hbs, hread⟩
  refine ⟨(takeDigits bs).1, hbs, fun other like => ?_⟩
  simp only [hread other like, id]

-- The sign of an exponent is taken apart in the same way in front of any digit.
theorem exponentSign_digit (bs : Octets) :
    ∃ sign, bs = sign ++ (exponentSign bs).2 ∧
      ∀ d other, isDigit d = true → (exponentSign (sign ++ d :: other)).2 = d :: other := by
  have unsigned : ∀ d other, isDigit d = true → (exponentSign (d :: other)).2 = d :: other := by
    intro d other digit
    -- A digit is none of the two signs.
    unfold exponentSign
    split
    · next same => exact absurd digit (by rw [(List.cons.inj same).1]; decide)
    · next same => exact absurd digit (by rw [(List.cons.inj same).1]; decide)
    · rfl
  fun_cases exponentSign bs with
  | case1 rest => exact ⟨[0x2B], rfl, fun d other _ => rfl⟩
  | case2 rest => exact ⟨[0x2D], rfl, fun d other _ => rfl⟩
  | case3 => exact ⟨[], rfl, unsigned⟩

theorem takenUpTo_skipExponent {bs rest : Octets} (h : skipExponent bs = .ok rest) :
    TakenUpTo skipExponent id bs rest := by
  rcases exponentSign_digit bs with ⟨sign, hbs, hsign⟩
  unfold skipExponent at h
  split at h
  · exact absurd h faultAt_ne_ok
  · next d behind unsigned =>
      by_cases digit : isDigit d = true
      · rw [if_pos digit] at h
        rcases takenUpTo_digits (Except.ok.inj h) with ⟨front, hbehind, hread⟩
        refine ⟨sign ++ d :: front, ?_, fun other like => ?_⟩
        · rw [hbs, unsigned, hbehind, List.append_assoc, List.cons_append]
        · rw [List.append_assoc, List.cons_append, skipExponent, hsign d _ digit]
          simp only [digit, if_true]
          exact hread other like
      · rw [if_neg digit] at h
        exact absurd h faultAt_ne_ok

-- Two texts that start alike lack the same signs at their start.
theorem not_cons_of_like {b : UInt8} {rest other : Octets} (like : other.head? = rest.head?)
    (h : ∀ bs, rest = b :: bs → False) : ∀ bs, other = b :: bs → False := by
  intro bs hother
  rw [hother, List.head?_cons] at like
  cases rest with
  | nil => exact absurd like (by simp only [List.head?_nil, reduceCtorEq, not_false_eq_true])
  | cons c rest =>
      rw [List.head?_cons, Option.some.injEq] at like
      exact h rest (by rw [like])

-- An exponent behind a point and digits.
theorem takenUpTo_skipTail_exponent {bs behind rest : Octets} {d e : UInt8} {ds : Octets}
    (digits : takeDigits bs = (d :: ds, e :: behind)) (letter : e = 0x65 ∨ e = 0x45)
    (h : skipExponent behind = .ok rest) : TakenUpTo skipTail id (0x2E :: bs) rest := by
  rcases takeDigits_upTo digits with ⟨hbs, htake⟩
  rcases takenUpTo_skipExponent h with ⟨front, hbehind, hread⟩
  refine ⟨0x2E :: (d :: ds) ++ e :: front, ?_, fun other like => ?_⟩
  · rw [hbs, hbehind, List.append_assoc]
    rfl
  · have taken : takeDigits ((d :: ds) ++ e :: (front ++ other)) =
        (d :: ds, e :: (front ++ other)) :=
      htake _ rfl
    have whole : 0x2E :: (d :: ds) ++ e :: front ++ other =
        0x2E :: ((d :: ds) ++ e :: (front ++ other)) := by
      rw [List.append_assoc]
      rfl
    rw [whole, skipTail, taken]
    rcases letter with rfl | rfl <;> exact hread other like

theorem takenUpTo_skipTail {bs rest : Octets} (h : skipTail bs = .ok rest) :
    TakenUpTo skipTail id bs rest := by
  fun_cases skipTail bs with
  | case1 bs rest digits =>
      rw [skipTail, digits] at h
      exact absurd h faultOver_ne_ok
  | case2 bs d ds behind digits =>
      rw [skipTail, digits] at h
      exact takenUpTo_skipTail_exponent digits (.inl rfl) h
  | case3 bs d ds behind digits =>
      rw [skipTail, digits] at h
      exact takenUpTo_skipTail_exponent digits (.inr rfl) h
  -- No exponent follows: what was looked at to see this is left.
  | case4 bs d ds behind small large digits =>
      rcases takeDigits_upTo digits with ⟨hbs, htake⟩
      have left : behind = rest := by
        simpa only [skipTail, digits, Except.ok.injEq] using h
      subst left
      refine ⟨0x2E :: d :: ds, by rw [hbs]; rfl, fun other like => ?_⟩
      have taken := htake other like
      rw [List.cons_append, skipTail, taken]
      split
      · next none => exact absurd none (by simp only [Prod.mk.injEq, reduceCtorEq, false_and,
          not_false_eq_true])
      · next same => exact (not_cons_of_like like small _ (congrArg Prod.snd same)).elim
      · next same => exact (not_cons_of_like like large _ (congrArg Prod.snd same)).elim
      · next same => exact congrArg Except.ok (congrArg Prod.snd same).symm
  | case5 behind => exact (takenUpTo_skipExponent h).cons [0x65] fun _ _ => rfl
  | case6 behind => exact (takenUpTo_skipExponent h).cons [0x45] fun _ _ => rfl
  -- Nothing of a number follows, and nothing is passed over.
  | case7 _ point small large =>
      rw [skipTail, Except.ok.injEq] at h
      · subst h
        refine ⟨[], rfl, fun other like => ?_⟩
        rw [List.nil_append, skipTail]
        · rfl
        · exact not_cons_of_like like point
        · exact not_cons_of_like like small
        · exact not_cons_of_like like large
      · exact point
      · exact small
      · exact large

-- Behind a zero no further digit may follow, so the octet there is looked at.
theorem takenUpTo_zero {bs rest : Octets} (h : skipDigits (0x30 :: bs) = .ok rest) :
    TakenUpTo (fun bs => skipDigits (0x30 :: bs)) id bs rest := by
  have lone : ∀ other, (∀ c, other.head? = some c → isDigit c = false) →
      skipDigits (0x30 :: other) = skipTail other := by
    intro other stop
    cases other with
    | nil => rfl
    | cons c other => simp only [skipDigits, stop c rfl, Bool.false_eq_true, if_true, if_false]
  have stop : ∀ c, bs.head? = some c → isDigit c = false := by
    intro c hc
    cases bs with
    | nil => exact absurd hc (by simp only [List.head?_nil, reduceCtorEq, not_false_eq_true])
    | cons b bs =>
        rw [List.head?_cons, Option.some.injEq] at hc
        subst hc
        -- A digit behind the zero would have been a fault.
        by_contra digit
        simp only [skipDigits, if_true, Bool.not_eq_false _ ▸ digit] at h
        exact faultOver_ne_ok h
  rw [lone bs stop] at h
  exact (takenUpTo_skipTail h).cons [] fun other like => lone other fun c hc => stop c (like ▸ hc)

/-- A number is passed over, from its first digit on, with a look at one further
    octet. -/
theorem takenUpTo_skipDigits {d : UInt8} {bs rest : Octets}
    (h : skipDigits (d :: bs) = .ok rest) :
    TakenUpTo (fun bs => skipDigits (d :: bs)) id bs rest := by
  by_cases zero : d = 0x30
  · subst zero
    exact takenUpTo_zero h
  · by_cases digit : isDigit d = true
    · have whole : ∀ other, skipDigits (d :: other) = skipTail (takeDigits other).2 := by
        intro other
        simp only [skipDigits, zero, digit, if_true, if_false]
      cases digits : takeDigits bs with
      | mk ds left =>
          rw [whole, digits] at h
          rcases takeDigits_upTo digits with ⟨hbs, htake⟩
          rcases takenUpTo_skipTail h with ⟨front, rfl, hread⟩
          refine ⟨ds ++ front, by rw [hbs, List.append_assoc], fun other like => ?_⟩
          simp only [List.append_assoc, whole, htake _ (head?_append_congr like)]
          exact hread other like
    · simp only [skipDigits, zero, digit, if_false] at h
      exact absurd h faultAt_ne_ok

/-! ## Brackets -/

theorem TakenUpTo.blanks {read inner : Octets → Except E β} {result : Octets → β}
    {bs behind rest : Octets} {b : UInt8} (h : TakenUpTo inner result behind rest)
    (start : skipBlanks bs = b :: behind)
    (step : ∀ bs other, skipBlanks bs = b :: other → read bs = inner other) :
    TakenUpTo read result bs rest := by
  rcases skipBlanks_eq_cons start with ⟨blanks, hbs, hskip⟩
  rcases h with ⟨front, rfl, hread⟩
  refine ⟨blanks ++ b :: front, by rw [hbs, List.append_assoc]; rfl, fun other like => ?_⟩
  rw [List.append_assoc, List.cons_append, step _ _ (hskip _), hread other like]

theorem TakenUpTo.bind {read : Octets → Except E Octets} {next : Octets → Except E β}
    {result : Octets → β} {bs middle rest : Octets} (first : TakenUpTo read id bs middle)
    (second : TakenUpTo next result middle rest) :
    TakenUpTo (fun bs => read bs >>= next) result bs rest := by
  rcases first with ⟨front, rfl, hread⟩
  rcases second with ⟨back, rfl, hnext⟩
  refine ⟨front ++ back, by rw [List.append_assoc], fun other like => ?_⟩
  simp only [List.append_assoc, hread _ (head?_append_congr like)]
  exact hnext other like

theorem takenUpTo_closeBrackets {opened left : List Bracket} :
    ∀ {filled : Bool} {bs rest : Octets}, closeBrackets filled opened bs = .ok (left, rest) →
      TakenUpTo (closeBrackets filled opened) (fun other => (left, other)) bs rest := by
  induction opened with
  | nil =>
      intro filled bs rest h
      simp only [closeBrackets, Except.ok.injEq, Prod.mk.injEq] at h
      rcases h with ⟨rfl, rfl⟩
      exact ⟨[], rfl, fun other _ => rfl⟩
  | cons inner outer ih =>
      intro filled bs rest h
      rw [closeBrackets] at h
      cases start : skipBlanks bs with
      | nil =>
          rw [start] at h
          exact absurd h faultAt_ne_ok
      | cons b behind =>
          rw [start] at h
          simp only at h
          -- Behind a value a comma goes on inside the same brackets.
          by_cases comma : filled = true ∧ b = 0x2C
          · rw [if_pos comma, Except.ok.injEq, Prod.mk.injEq] at h
            rcases h with ⟨rfl, rfl⟩
            have passed : TakenUpTo (E := Fault) (fun bs => .ok (inner :: outer, bs))
                (fun other => (inner :: outer, other)) behind behind :=
              ⟨[], rfl, fun other _ => rfl⟩
            refine passed.blanks start fun bs other start => ?_
            rw [closeBrackets, start]
            exact if_pos comma
          · rw [if_neg comma] at h
            by_cases closing : b = inner.closing
            · rw [if_pos closing] at h
              -- One bracket is closed, and those around it may close next.
              refine (ih h).blanks start fun bs other start => ?_
              rw [closeBrackets, start]
              simp only
              rw [if_neg comma, if_pos closing]
            · rw [if_neg closing] at h
              by_cases full : filled = true
              · rw [if_pos full] at h
                exact absurd h faultOver_ne_ok
              · rw [if_neg full, Except.ok.injEq, Prod.mk.injEq] at h
                rcases h with ⟨rfl, rfl⟩
                -- Nothing closes here: the octet is looked at and left.
                rcases skipBlanks_eq_cons start with ⟨blanks, hbs, hskip⟩
                refine ⟨blanks, hbs, fun other like => ?_⟩
                cases other with
                | nil => exact absurd like (by simp only [List.head?_nil, List.head?_cons,
                    reduceCtorEq, not_false_eq_true])
                | cons c other =>
                    simp only [List.head?_cons, Option.some.injEq] at like
                    subst like
                    rw [closeBrackets, hskip]
                    simp only
                    rw [if_neg comma, if_neg closing, if_neg full]

/-! ## Values -/

theorem takenUpTo_skipScalar {b : UInt8} {bs rest : Octets} (h : skipScalar b bs = .ok rest) :
    TakenUpTo (skipScalar b) id bs rest := by
  -- The first octet tells six kinds of values apart, and each has been dealt with.
  by_cases isNull : b = 0x6E
  · have whole : skipScalar b = readWord restOfNull := funext fun bs => if_pos isNull
    rw [whole] at h ⊢
    exact (taken_readWord h).upTo
  by_cases isTrue : b = 0x74
  · have whole : skipScalar b = readWord restOfTrue := funext fun bs => by
      rw [skipScalar, if_neg isNull, if_pos isTrue]
    rw [whole] at h ⊢
    exact (taken_readWord h).upTo
  by_cases isFalse : b = 0x66
  · have whole : skipScalar b = readWord restOfFalse := funext fun bs => by
      rw [skipScalar, if_neg isNull, if_neg isTrue, if_pos isFalse]
    rw [whole] at h ⊢
    exact (taken_readWord h).upTo
  by_cases quote : b = 0x22
  · have whole : skipScalar b = skipText := funext fun bs => by
      rw [skipScalar, if_neg isNull, if_neg isTrue, if_neg isFalse, if_pos quote]
    rw [whole] at h ⊢
    exact (taken_skipText h).upTo
  by_cases minus : b = 0x2D
  · have whole : skipScalar b = skipDigits := funext fun bs => by
      rw [skipScalar, if_neg isNull, if_neg isTrue, if_neg isFalse, if_neg quote, if_pos minus]
    rw [whole] at h ⊢
    cases bs with
    | nil => exact absurd h faultAt_ne_ok
    | cons d bs => exact (takenUpTo_skipDigits h).cons [d] fun _ _ => rfl
  by_cases digit : isDigit b = true
  · have whole : skipScalar b = fun bs => skipDigits (b :: bs) := funext fun bs => by
      rw [skipScalar, if_neg isNull, if_neg isTrue, if_neg isFalse, if_neg quote, if_neg minus,
        if_pos digit]
    rw [whole] at h ⊢
    exact takenUpTo_skipDigits h
  · rw [skipScalar, if_neg isNull, if_neg isTrue, if_neg isFalse, if_neg quote, if_neg minus,
      if_neg digit] at h
    exact absurd h faultOver_ne_ok

-- The name of a member stops by itself, with the colon behind it.
theorem taken_skipName {bs rest : Octets} (h : skipName bs = .ok rest) :
    Taken skipName id bs rest := by
  unfold skipName at h
  split at h
  · exact absurd h faultAt_ne_ok
  · next behind start =>
      rcases bind_eq_ok h with ⟨middle, name, colon⟩
      split at colon
      · exact absurd colon faultAt_ne_ok
      · next left gap =>
          rcases Except.ok.inj colon with rfl
          rcases taken_skipText name with ⟨front, rfl, hread⟩
          rcases skipBlanks_eq_cons gap with ⟨more, rfl, hmore⟩
          rcases skipBlanks_eq_cons start with ⟨blanks, rfl, hskip⟩
          -- Blanks, a quote, the name with its own quote, blanks again, and the
          -- colon.
          refine ⟨blanks ++ 0x22 :: (front ++ (more ++ [0x3A])), ?_, fun other => ?_⟩
          · simp only [List.append_assoc, List.cons_append, List.nil_append]
          · have whole : blanks ++ 0x22 :: (front ++ (more ++ [0x3A])) ++ other =
                blanks ++ 0x22 :: (front ++ (more ++ 0x3A :: other)) := by
              simp only [List.append_assoc, List.cons_append, List.nil_append]
            rw [whole, skipName, hskip]
            simp only [hread, bind, Except.bind, id, hmore]
      · exact absurd colon faultOver_ne_ok
  · exact absurd h faultOver_ne_ok

/-- Passes over a value that is no bracket or over an opening bracket, from its
    first octet on, and then over what closes. -/
def enter (opened : List Bracket) (b : UInt8) (bs : Octets) :
    Except Fault (List Bracket × Octets) :=
  if b = 0x5B then closeBrackets false (.list :: opened) bs
  else if b = 0x7B then closeBrackets false (.object :: opened) bs
  else skipScalar b bs >>= closeBrackets true opened

theorem takenUpTo_enter {opened left : List Bracket} {b : UInt8} {bs rest : Octets}
    (h : enter opened b bs = .ok (left, rest)) :
    TakenUpTo (enter opened b) (fun other => (left, other)) bs rest := by
  by_cases list : b = 0x5B
  · have whole : enter opened b = closeBrackets false (.list :: opened) :=
      funext fun bs => if_pos list
    rw [whole] at h ⊢
    exact takenUpTo_closeBrackets h
  by_cases object : b = 0x7B
  · have whole : enter opened b = closeBrackets false (.object :: opened) := funext fun bs => by
      rw [enter, if_neg list, if_pos object]
    rw [whole] at h ⊢
    exact takenUpTo_closeBrackets h
  · have whole : enter opened b = fun bs => skipScalar b bs >>= closeBrackets true opened :=
      funext fun bs => by rw [enter, if_neg list, if_neg object]
    rw [whole] at h ⊢
    rcases bind_eq_ok h with ⟨middle, scalar, closing⟩
    exact (takenUpTo_skipScalar scalar).bind (takenUpTo_closeBrackets closing)

/-- What is left to pass over while brackets are open: behind an open object first
    comes a name. -/
def resume (rounds : Octets) : List Bracket × Octets → Except Fault Octets
  | (opened, bs) =>
    match opened with
    | [] => .ok bs
    | .list :: _ => skipOpen rounds opened bs
    | .object :: _ => skipName bs >>= skipOpen rounds opened

theorem skipOpen_cons (round : UInt8) (rounds : Octets) (opened : List Bracket) {b : UInt8}
    {bs rest : Octets} (start : skipBlanks bs = b :: rest) :
    skipOpen (round :: rounds) opened bs = enter opened b rest >>= resume rounds := by
  rw [skipOpen, start]
  by_cases list : b = 0x5B
  · simp only [enter, list, if_true]
    rfl
  by_cases object : b = 0x7B
  · simp only [enter, object, if_true]
    rfl
  · simp only [enter, list, object, if_false]
    rfl

-- If a round for every octet is enough while brackets are open, it is enough
-- where a name may come first.
theorem upTo_resume {rounds : Octets} {left : List Bracket} {bs rest : Octets}
    (open? : ∀ {opened : List Bracket} {bs rest : Octets}, skipOpen rounds opened bs = .ok rest →
      ∃ front, bs = front ++ rest ∧ ∀ rounds other : Octets, front.length ≤ rounds.length →
        other.head? = rest.head? → skipOpen rounds opened (front ++ other) = .ok other)
    (h : resume rounds (left, bs) = .ok rest) :
    ∃ front, bs = front ++ rest ∧ ∀ rounds other : Octets, front.length ≤ rounds.length →
      other.head? = rest.head? → resume rounds (left, front ++ other) = .ok other := by
  cases left with
  | nil => exact ⟨[], Except.ok.inj h, fun _ other _ _ => rfl⟩
  | cons inner outer =>
      cases inner with
      | list => exact open? h
      | object =>
          rcases bind_eq_ok h with ⟨middle, name, value⟩
          rcases taken_skipName name with ⟨passed, rfl, hname⟩
          rcases open? value with ⟨back, rfl, hback⟩
          refine ⟨passed ++ back, by rw [List.append_assoc], fun rounds other enough like => ?_⟩
          rw [List.length_append] at enough
          rw [List.append_assoc, resume, hname]
          exact hback rounds other (by omega) like

-- A round for every octet that is passed over is enough.
theorem upTo_skipOpen {rounds : Octets} :
    ∀ {opened : List Bracket} {bs rest : Octets}, skipOpen rounds opened bs = .ok rest →
      ∃ front, bs = front ++ rest ∧ ∀ rounds other : Octets, front.length ≤ rounds.length →
        other.head? = rest.head? → skipOpen rounds opened (front ++ other) = .ok other := by
  -- Each round reads at least one octet, so the rounds are what the induction is
  -- on.
  induction rounds with
  | nil => exact fun h => absurd h faultAt_ne_ok
  | cons round rounds ih =>
      intro opened bs rest h
      cases start : skipBlanks bs with
      | nil =>
          rw [skipOpen, start] at h
          exact absurd h faultAt_ne_ok
      | cons b behind =>
          rw [skipOpen_cons _ _ _ start] at h
          rcases bind_eq_ok h with ⟨⟨left, middle⟩, entered, resumed⟩
          rcases skipBlanks_eq_cons start with ⟨blanks, rfl, hskip⟩
          rcases takenUpTo_enter entered with ⟨front, rfl, hread⟩
          rcases upTo_resume ih resumed with ⟨back, rfl, hback⟩
          refine ⟨blanks ++ b :: (front ++ back), ?_, fun rounds other enough like => ?_⟩
          · rw [List.append_assoc, List.cons_append, List.append_assoc]
          · rw [List.length_append, List.length_cons, List.length_append] at enough
            rw [List.append_assoc, List.cons_append, List.append_assoc]
            -- One round is used up here, and one octet has been read.
            cases rounds with
            | nil => exact absurd enough (by rw [List.length_nil]; omega)
            | cons round rounds =>
                rw [List.length_cons] at enough
                rw [skipOpen_cons _ _ _ (hskip _), hread _ (head?_append_congr like)]
                exact hback rounds other (by omega) like

/-- A value that nobody asked for is passed over with a look at one further octet
    at most. -/
theorem takenUpTo_skipValue {bs rest : Octets} (h : skipValue bs = .ok rest) :
    TakenUpTo skipValue id bs rest := by
  rcases upTo_skipOpen h with ⟨front, hbs, hread⟩
  refine ⟨front, hbs, fun other like => hread _ other ?_ like⟩
  rw [List.length_append]
  omega

end

end Json
end Rulebook

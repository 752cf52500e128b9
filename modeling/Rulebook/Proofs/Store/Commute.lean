import Mathlib.Data.List.Forall2
import Rulebook.Proofs.Store.OrderedMap

/-!
# Calls about Different Rules

Two calls that are about different rules may be made in either order. Each is answered
as it would be without the other, and the same rules are kept.

The pairs of calls need not be gone through one by one, because a call does little with
the rules that are there. It looks up the one that it is about, and its reply hangs on
nothing else. It changes or drops rules one by one, by their own identifiers, so that two
such changes can be made at one rule in either order. And it may put a rule at the end.
That is the one thing in which an order shows: of two rules that are both new, the one
that is put in first stands first.

In a run of demands this difference does not go away, but it does not grow either. Two
neighbours that stand the wrong way round are still neighbours after any further call,
unless one of them is dropped. A listing may show them in either order, while whoever
asks for a rule by its identifier is told the same.

## Main definitions

* `Call.change`, `Call.addition`: What a call makes of a rule, and what it puts in.
* `Files`: A call puts in a rule.
* `Swapped`: Two rows that differ at most in the order of two neighbours.
* `Alike`: Two replies that differ at most by such an order, in a listing.

## Theorems

* `reply_congr`: The reply to a call about one rule hangs on what is found of that rule.
* `rules_run_eq`: What a call does to the rules, one by one and at their end.
* `rules_run_run`: What two calls about different rules do to them.
* `serve_swapped`, `serveAll_swapped`: Two neighbours stay neighbours.
* `calls_commute`: Calls about different rules can be made in either order.
-/

namespace Rulebook

namespace Call

/-- What a call makes of a rule that is there; nothing if it drops the rule. -/
def change : Call → Rule → Option Rule
  | .update id fields now, rule => if rule.id = id then some (rule.apply fields now) else some rule
  | .delete id, rule => if rule.id = id then none else some rule
  | .list, rule | .create _, rule | .get _, rule => some rule

/-- What a call puts at the end of a store. -/
def addition (store : Store) : Call → List Rule
  | .create rule => if (store.find? rule.id).isSome then [] else [rule]
  | .list | .get _ | .update .. | .delete _ => []

section

variable {x y : Call} {a b : RuleId}

theorem change_of_ne (about : x.subject? = some a) {rule : Rule} (other : rule.id ≠ a) :
    x.change rule = some rule := by
  cases x with
  | list | create | get => rfl
  | update id fields now =>
    obtain rfl : id = a := Option.some.inj about
    exact if_neg other
  | delete id =>
    obtain rfl : id = a := Option.some.inj about
    exact if_neg other

theorem id_change {rule changed : Rule} (h : x.change rule = some changed) :
    changed.id = rule.id := by
  cases x with
  | list | create | get => exact congrArg Rule.id (Option.some.inj h).symm
  | update id fields now =>
    simp only [change] at h
    split at h
    · exact (congrArg Rule.id (Option.some.inj h).symm).trans (Rule.id_apply ..)
    · exact congrArg Rule.id (Option.some.inj h).symm
  | delete id =>
    simp only [change] at h
    split at h
    · exact absurd h (by simp only [reduceCtorEq, not_false_eq_true])
    · exact congrArg Rule.id (Option.some.inj h).symm

-- After another change a rule still has another identifier.
theorem change_bind_of_ne (about : y.subject? = some b) {rule : Rule} (other : rule.id ≠ b) :
    (x.change rule).bind y.change = x.change rule := by
  cases changed : x.change rule with
  | none => rfl
  | some left =>
    have still : left.id ≠ b := by
      rw [id_change changed]
      exact other
    exact change_of_ne about still

/-- At one rule the order of two calls about different rules plays no part. -/
theorem change_comm (hx : x.subject? = some a) (hy : y.subject? = some b) (apart : a ≠ b)
    (rule : Rule) : (x.change rule).bind y.change = (y.change rule).bind x.change := by
  by_cases h : rule.id = a
  · have other : rule.id ≠ b := by
      rw [h]
      exact apart
    rw [change_bind_of_ne hy other, change_of_ne hy other, Option.bind_some]
  · rw [change_bind_of_ne hx h, change_of_ne hx h, Option.bind_some]

end

end Call

/-- A call puts in a rule. -/
def Files (store : Store) (call : Call) (rule : Rule) : Prop :=
  call = .create rule ∧ ∃ grown, store.create rule = .ok grown

namespace Store

/-! ## One call -/

/-- The reply to a call about one rule hangs on what is found of that rule, and on
    nothing else that is kept. -/
theorem reply_congr {call : Call} {id : RuleId} (about : call.subject? = some id)
    {store other : Store} (same : store.find? id = other.find? id) :
    (store.run call).1 = (other.run call).1 := by
  cases call with
  | list => exact absurd about (by simp only [Call.subject?, reduceCtorEq, not_false_eq_true])
  | get asked =>
    obtain rfl : asked = id := Option.some.inj about
    exact congrArg Except.ok same
  | create rule =>
    obtain rfl : rule.id = id := Option.some.inj about
    simp only [run, create, same]
    cases other.find? rule.id <;> rfl
  | update asked fields now =>
    obtain rfl : asked = id := Option.some.inj about
    simp only [run, find?_update, if_true, same]
  | delete asked =>
    obtain rfl : asked = id := Option.some.inj about
    simp only [run, same]

theorem files_iff {store : Store} {call : Call} {rule : Rule} :
    Files store call rule ↔ call = .create rule ∧ store.find? rule.id = none := by
  unfold Files
  constructor
  · rintro ⟨rfl, grown, h⟩
    exact ⟨rfl, (create_eq_ok_iff.1 h).1⟩
  · rintro ⟨rfl, free⟩
    exact ⟨rfl, _, create_eq_ok_iff.2 ⟨free, rfl⟩⟩

/-- What a call puts at the end is the rule that it puts in, if it does. -/
theorem mem_addition_iff {store : Store} {call : Call} {rule : Rule} :
    rule ∈ call.addition store ↔ Files store call rule := by
  rw [files_iff]
  cases call with
  | list | get | update | delete => simp only [Call.addition, List.not_mem_nil, reduceCtorEq,
      false_and]
  | create filed =>
    rw [Call.create.injEq, Call.addition]
    cases found : store.find? filed.id with
    | none =>
      rw [Option.isSome_none, if_neg Bool.false_ne_true, List.mem_singleton]
      constructor
      · rintro rfl
        exact ⟨rfl, found⟩
      · intro h
        exact h.1.symm
    | some taken =>
      rw [Option.isSome_some, if_pos rfl]
      refine iff_of_false List.not_mem_nil ?_
      rintro ⟨rfl, free⟩
      exact absurd (found.symm.trans free) (Option.some_ne_none taken)

theorem addition_of_files {store : Store} {call : Call} {rule : Rule}
    (h : Files store call rule) : call.addition store = [rule] := by
  rcases files_iff.1 h with ⟨rfl, free⟩
  rw [Call.addition, free, Option.isSome_none, if_neg Bool.false_ne_true]

theorem addition_eq_nil {store : Store} {call : Call} (h : ∀ rule, ¬ Files store call rule) :
    call.addition store = [] :=
  List.eq_nil_iff_forall_not_mem.2 fun rule mem => h rule (mem_addition_iff.1 mem)

/-- A call changes or drops the rules that are there, one by one, and may put one at
    their end. -/
theorem rules_run_eq {store : Store} (distinct : store.Distinct) (call : Call) :
    (store.run call).2.rules = store.rules.filterMap call.change ++ call.addition store := by
  have untouched : store.rules.filterMap some = store.rules := List.filterMap_some
  cases call with
  | list | get => exact untouched.symm.trans (List.append_nil _).symm
  | create rule =>
    change _ = store.rules.filterMap some ++ _
    rw [untouched, Call.addition, run, create]
    by_cases taken : (store.find? rule.id).isSome = true
    · rw [if_pos taken, if_pos taken, List.append_nil]
    · rw [if_neg taken, if_neg taken]
  | update id fields now =>
    rw [Call.addition, List.append_nil, run, rules_update distinct, ← List.filterMap_eq_map]
    refine List.filterMap_congr fun rule _ => ?_
    rw [Function.comp_apply, Call.change]
    split <;> rfl
  | delete id =>
    rw [Call.addition, List.append_nil, run, rules_delete, ← List.filterMap_eq_filter]
    refine List.filterMap_congr fun rule _ => ?_
    rw [Call.change]
    by_cases h : rule.id = id
    · rw [if_pos h, Option.guard_eq_none_iff.2]
      simp [h]
    · rw [if_neg h]
      simp [h]

/-! ## Two calls -/

section

variable {store : Store} {x y : Call} {a b : RuleId}

-- What another call finds to put in is not changed, nor does it keep it from being put in.
theorem addition_run (hx : x.subject? = some a) (hy : y.subject? = some b) (apart : a ≠ b) :
    y.addition (store.run x).2 = y.addition store := by
  cases y with
  | list | get | update | delete => rfl
  | create rule =>
    obtain rfl : rule.id = b := Option.some.inj hy
    rw [Call.addition, Call.addition, find?_run_of_ne hx apart]

/-- What two calls about different rules do to the rules: both do their part at each of
    them, and what they put in is put in. -/
theorem rules_run_run (distinct : store.Distinct) (hx : x.subject? = some a)
    (hy : y.subject? = some b) (apart : a ≠ b) :
    ((store.run x).2.run y).2.rules =
      store.rules.filterMap (fun rule => (x.change rule).bind y.change) ++
        (x.addition store ++ y.addition store) := by
  -- What the first call puts in is not what the second one is about.
  have kept : (x.addition store).filterMap y.change = x.addition store := by
    rw [List.filterMap_congr (g := some), List.filterMap_some]
    intro rule mem
    refine Call.change_of_ne hy fun same => ?_
    obtain ⟨rfl, -⟩ := mem_addition_iff.1 mem
    exact apart ((Option.some.inj hx).symm.trans same)
  rw [rules_run_eq (distinct_run distinct x), rules_run_eq distinct, addition_run hx hy apart,
    List.filterMap_append, List.filterMap_filterMap, kept, List.append_assoc]

/-- Two calls about different rules leave the same rules behind in either order, but for
    the order of two rules that both put in. -/
theorem rules_run_comm (distinct : store.Distinct) (hx : x.subject? = some a)
    (hy : y.subject? = some b) (apart : a ≠ b)
    (single : ∀ r s, ¬ (Files store x r ∧ Files store y s)) :
    ((store.run x).2.run y).2 = ((store.run y).2.run x).2 := by
  have changes : (fun rule => (x.change rule).bind y.change) =
      fun rule => (y.change rule).bind x.change := funext (Call.change_comm hx hy apart)
  have additions : x.addition store ++ y.addition store = y.addition store ++ x.addition store := by
    by_cases h : ∃ r, Files store x r
    · rcases h with ⟨r, hr⟩
      rw [addition_eq_nil fun s hs => single r s ⟨hr, hs⟩, List.append_nil, List.nil_append]
    · rw [addition_eq_nil fun r hr => h ⟨r, hr⟩, List.append_nil, List.nil_append]
  have rules : ((store.run x).2.run y).2.rules = ((store.run y).2.run x).2.rules := by
    rw [rules_run_run distinct hx hy apart, rules_run_run distinct hy hx (Ne.symm apart), changes,
      additions]
  exact congrArg Store.mk rules

/-- Two rules that are both put in stand at the end, the first one first. -/
theorem rules_file_file (distinct : store.Distinct) (hx : x.subject? = some a)
    (hy : y.subject? = some b) (apart : a ≠ b) {r s : Rule} (hr : Files store x r)
    (hs : Files store y s) : ((store.run x).2.run y).2.rules = store.rules ++ [r, s] := by
  have additions : x.addition store ++ y.addition store = [r, s] := by
    rw [addition_of_files hr, addition_of_files hs]
    rfl
  rw [rules_run_run distinct hx hy apart, additions]
  obtain ⟨rfl, -⟩ := hr
  obtain ⟨rfl, -⟩ := hs
  congr 1
  exact List.filterMap_some

-- The second call has the reply that it has alone.
theorem reply_run (hx : x.subject? = some a) (hy : y.subject? = some b) (apart : a ≠ b)
    (store : Store) : ((store.run x).2.run y).1 = (store.run y).1 :=
  reply_congr hy (find?_run_of_ne hx apart store)

end

end Store

/-! ## Neighbours in another order -/

/-- Two rows that differ at most in the order of two neighbours. -/
inductive Swapped {α : Type} : List α → List α → Prop
  | same (row : List α) : Swapped row row
  | exchanged (front : List α) (a b : α) (back : List α) :
    Swapped (front ++ a :: b :: back) (front ++ b :: a :: back)

namespace Swapped

variable {α : Type} {row other : List α}

theorem perm (h : Swapped row other) : row.Perm other := by
  cases h with
  | same => exact List.Perm.refl _
  | exchanged front a b back => exact List.Perm.append_left front (List.Perm.swap b a back)

theorem append (h : Swapped row other) (more : List α) : Swapped (row ++ more) (other ++ more) := by
  cases h with
  | same => exact .same _
  | exchanged front a b back =>
    simp only [List.append_assoc, List.cons_append]
    exact .exchanged front a b (back ++ more)

-- Neighbours remain neighbours as long as both remain.
theorem filterMap (h : Swapped row other) (f : α → Option α) :
    Swapped (row.filterMap f) (other.filterMap f) := by
  cases h with
  | same => exact .same _
  | exchanged front a b back =>
    rw [List.filterMap_append, List.filterMap_append]
    cases ha : f a with
    | none =>
      simp only [List.filterMap_cons, ha]
      exact .same _
    | some a' =>
      cases hb : f b with
      | none =>
        simp only [List.filterMap_cons, ha, hb]
        exact .same _
      | some b' =>
        simp only [List.filterMap_cons, ha, hb]
        exact .exchanged _ a' b' _

end Swapped

/-- Two replies to one demand that are the same, unless they are listings: those may
    differ in the order of two neighbours. -/
inductive Alike : (Σ demand : Demand, demand.Reply) → (Σ demand : Demand, demand.Reply) → Prop
  | same (reply : Σ demand : Demand, demand.Reply) : Alike reply reply
  | listing {rules others : List Rule} (swapped : Swapped rules others) :
    Alike ⟨.call .list, .ok rules⟩ ⟨.call .list, .ok others⟩

namespace Store

/-- Two calls about different rules leave two new neighbours behind, in either order, or
    the same rules. -/
theorem swapped_run_run {store : Store} (distinct : store.Distinct) {x y : Call} {a b : RuleId}
    (hx : x.subject? = some a) (hy : y.subject? = some b) (apart : a ≠ b) :
    Swapped ((store.run x).2.run y).2.rules ((store.run y).2.run x).2.rules := by
  by_cases both : ∃ r s, Files store x r ∧ Files store y s
  · rcases both with ⟨r, s, hr, hs⟩
    rw [rules_file_file distinct hx hy apart hr hs,
      rules_file_file distinct hy hx (Ne.symm apart) hs hr]
    exact .exchanged store.rules r s []
  · rw [rules_run_comm distinct hx hy apart fun r s h => both ⟨r, s, h⟩]
    exact .same _

theorem distinct_of_perm {store other : Store} (distinct : store.Distinct)
    (perm : store.rules.Perm other.rules) : other.Distinct :=
  (perm.map Rule.id).nodup distinct

/-- What is found does not hang on the order of the rules. -/
theorem find?_of_perm {store other : Store} (distinct : store.Distinct)
    (perm : store.rules.Perm other.rules) (id : RuleId) : store.find? id = other.find? id := by
  ext rule
  rw [find?_eq_some_iff distinct, find?_eq_some_iff (distinct_of_perm distinct perm),
    perm.mem_iff]

section

variable {store other : Store} (distinct : store.Distinct) (h : Swapped store.rules other.rules)
include distinct h

theorem run_swapped (call : Call) : Swapped (store.run call).2.rules (other.run call).2.rules := by
  have additions : call.addition store = call.addition other := by
    cases call with
    | list | get | update | delete => rfl
    | create rule => rw [Call.addition, Call.addition, find?_of_perm distinct h.perm]
  rw [rules_run_eq distinct, rules_run_eq (distinct_of_perm distinct h.perm), additions]
  exact (h.filterMap call.change).append _

/-- Of two stores in which two neighbours stand the other way round, a demand is met
    alike, and neighbours they remain. -/
theorem serve_swapped (demand : Demand) :
    Alike ⟨demand, (store.serve demand).1⟩ ⟨demand, (other.serve demand).1⟩ ∧
      Swapped (store.serve demand).2.rules (other.serve demand).2.rules := by
  cases demand with
  | size =>
    have same : (store.serve .size).1 = (other.serve .size).1 := h.perm.length_eq
    rw [same]
    exact ⟨.same _, h⟩
  | isEmpty =>
    have same : (store.serve .isEmpty).1 = (other.serve .isEmpty).1 := h.perm.isEmpty_eq
    rw [same]
    exact ⟨.same _, h⟩
  | call made =>
    refine ⟨?_, run_swapped distinct h made⟩
    cases about : made.subject? with
    | none =>
      -- Only a listing is about no rule in particular.
      cases made with
      | list => exact .listing h
      | create | get | update | delete => exact absurd about (Option.some_ne_none _)
    | some id =>
      have same : (store.serve (.call made)).1 = (other.serve (.call made)).1 :=
        reply_congr about (find?_of_perm distinct h.perm id)
      rw [same]
      exact .same _

end

theorem distinct_serve {store : Store} (distinct : store.Distinct) (demand : Demand) :
    (store.serve demand).2.Distinct := by
  cases demand with
  | call made => exact distinct_run distinct made
  | size | isEmpty => exact distinct

theorem distinct_serveAll {store : Store} (distinct : store.Distinct) (demands : List Demand) :
    (Demand.serveAll Store.serve store demands).2.Distinct := by
  induction demands generalizing store with
  | nil => exact distinct
  | cons demand rest ih => exact ih (distinct_serve distinct demand)

/-- So are many demands, one after the other. -/
theorem serveAll_swapped {store other : Store} (distinct : store.Distinct)
    (h : Swapped store.rules other.rules) (demands : List Demand) :
    List.Forall₂ Alike (Demand.serveAll Store.serve store demands).1
        (Demand.serveAll Store.serve other demands).1 ∧
      Swapped (Demand.serveAll Store.serve store demands).2.rules
        (Demand.serveAll Store.serve other demands).2.rules := by
  induction demands generalizing store other with
  | nil => exact ⟨.nil, h⟩
  | cons demand rest ih =>
    rcases serve_swapped distinct h demand with ⟨reply, next⟩
    rcases ih (distinct_serve distinct demand) next with ⟨replies, last⟩
    exact ⟨.cons reply replies, last⟩

end Store

/-! ## Runs -/

-- Demands that come later are met by what the earlier ones leave behind.
theorem Demand.serveAll_append {σ : Type} (serve : σ → (demand : Demand) → demand.Reply × σ)
    (kept : σ) (first last : List Demand) :
    serveAll serve kept (first ++ last) =
      ((serveAll serve kept first).1 ++ (serveAll serve (serveAll serve kept first).2 last).1,
        (serveAll serve (serveAll serve kept first).2 last).2) := by
  induction first generalizing kept with
  | nil => rfl
  | cons demand rest ih => simp only [List.cons_append, serveAll, ih]

/-- Two calls about different rules, made at a store in which no identifier is there
    twice. In either order each has the reply that it has alone, and the same store is
    left behind, unless both put in a rule: then the two new rules stand at the end in
    the order in which they were put in.

    In a run of demands in which the two calls follow each other they can change places.
    The replies before them and their own replies are the same. Every later demand has
    the same reply, apart from listings, which may show two neighbours the other way
    round, as they then stand at the end of the run. -/
theorem calls_commute {x y : Call} {a b : RuleId} (hx : x.subject? = some a)
    (hy : y.subject? = some b) (apart : a ≠ b) {store : Store} (distinct : store.Distinct) :
    (let xy := (store.run x).2.run y
      let yx := (store.run y).2.run x
      yx.1 = (store.run x).1 ∧ xy.1 = (store.run y).1 ∧
        (∀ r s, Files store x r → Files store y s →
          xy.2.rules = store.rules ++ [r, s] ∧ yx.2.rules = store.rules ++ [s, r]) ∧
        ((∀ r s, ¬ (Files store x r ∧ Files store y s)) → xy.2 = yx.2)) ∧
    ∀ before after : List Demand,
      let serveAll := Demand.serveAll Store.serve
      let replies := (serveAll store before).1
      let kept := (serveAll store before).2
      let one := serveAll store (before ++ .call x :: .call y :: after)
      let other := serveAll store (before ++ .call y :: .call x :: after)
      ∃ later latter,
        one.1 = replies ++ ⟨.call x, (kept.run x).1⟩ :: ⟨.call y, (kept.run y).1⟩ :: later ∧
        other.1 = replies ++ ⟨.call y, (kept.run y).1⟩ :: ⟨.call x, (kept.run x).1⟩ :: latter ∧
        List.Forall₂ Alike later latter ∧ Swapped one.2.rules other.2.rules := by
  refine ⟨⟨Store.reply_run hy hx (Ne.symm apart) store, Store.reply_run hx hy apart store,
    fun r s hr hs => ⟨Store.rules_file_file distinct hx hy apart hr hs,
      Store.rules_file_file distinct hy hx (Ne.symm apart) hs hr⟩,
    Store.rules_run_comm distinct hx hy apart⟩, ?_⟩
  intro before after serveAll replies kept one other
  have distinctKept : kept.Distinct := Store.distinct_serveAll distinct before
  have distinctBehind : ((kept.run x).2.run y).2.Distinct :=
    Store.distinct_run (Store.distinct_run distinctKept x) y
  -- The two runs part at two stores that differ in the order of neighbours at most.
  rcases Store.serveAll_swapped distinctBehind
    (Store.swapped_run_run distinctKept hx hy apart) after with ⟨alike, last⟩
  have toOne : one = (replies ++ ⟨.call x, (kept.run x).1⟩ :: ⟨.call y, (kept.run y).1⟩ ::
      (serveAll ((kept.run x).2.run y).2 after).1, (serveAll ((kept.run x).2.run y).2 after).2) := by
    rw [← Store.reply_run hx hy apart kept]
    exact Demand.serveAll_append Store.serve store before _
  have toOther : other = (replies ++ ⟨.call y, (kept.run y).1⟩ :: ⟨.call x, (kept.run x).1⟩ ::
      (serveAll ((kept.run y).2.run x).2 after).1, (serveAll ((kept.run y).2.run x).2 after).2) := by
    rw [← Store.reply_run hy hx (Ne.symm apart) kept]
    exact Demand.serveAll_append Store.serve store before _
  rw [toOne, toOther]
  exact ⟨_, _, rfl, rfl, alike, last⟩

-- Two new rules are put in behind an old one, and then all are listed and one is asked for.
theorem calls_commute_filed :
    let now : Instant := ⟨0, 0, by decide, by decide, by decide⟩
    let rule (id : String) : Rule := Rule.create ⟨id⟩ ⟨"n", none, "c", "d", true⟩ now
    let store : Store := ⟨[rule "k"]⟩
    let x : Call := .create (rule "p")
    let y : Call := .create (rule "q")
    let replies (demands : List Demand) := (Demand.serveAll Store.serve store demands).1
    x.subject? = some ⟨"p"⟩ ∧ y.subject? = some ⟨"q"⟩ ∧ (⟨"p"⟩ : RuleId) ≠ ⟨"q"⟩ ∧
      store.Distinct ∧ ((store.run x).2.run y).1 = .ok () ∧
      ((store.run x).2.run y).2.rules = [rule "k", rule "p", rule "q"] ∧
      ((store.run y).2.run x).2.rules = [rule "k", rule "q", rule "p"] ∧
      List.Forall₂ Alike
        ((replies [.call x, .call y, .call .list, .call (.get ⟨"p"⟩)]).drop 2)
        ((replies [.call y, .call x, .call .list, .call (.get ⟨"p"⟩)]).drop 2) := by
  intro now rule store x y replies
  have apart : (⟨"p"⟩ : RuleId) ≠ ⟨"q"⟩ := by decide
  have distinct : store.Distinct := List.nodup_singleton _
  have law := calls_commute (x := x) (y := y) rfl rfl apart distinct
  have filed : Files store x (rule "p") ∧ Files store y (rule "q") :=
    ⟨⟨rfl, _, rfl⟩, ⟨rfl, _, rfl⟩⟩
  have ends := law.1.2.2.1 (rule "p") (rule "q") filed.1 filed.2
  refine ⟨rfl, rfl, apart, distinct, law.1.2.1, ends.1, ends.2, ?_⟩
  rcases law.2 [] [.call .list, .call (.get ⟨"p"⟩)] with ⟨later, latter, one, other, alike, -⟩
  have tails : (replies [.call x, .call y, .call .list, .call (.get ⟨"p"⟩)]).drop 2 = later ∧
      (replies [.call y, .call x, .call .list, .call (.get ⟨"p"⟩)]).drop 2 = latter :=
    ⟨congrArg (List.drop 2) one, congrArg (List.drop 2) other⟩
  rw [tails.1, tails.2]
  exact alike

end Rulebook

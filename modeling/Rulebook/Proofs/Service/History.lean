import Rulebook.Proofs.Service.Ledger

/-!
# What a Rule Goes Through

Between two moments of a run a rule that is kept may be replaced any number of times,
while others are filed, replaced and removed around it. As long as it is not removed
itself, it is there at the end. It still counts as created when it was, the time of its
last change has not gone back, however the clocks went, and it holds what was put in its
place last. Nor do two such rules change places: what is filed comes last, a replacement
stays where it is, and a removal leaves the others in order.

What an observer takes for a removal or a replacement is one: `removes_iff` and
`replaces_iff` tie the exchanges that are seen to the outcomes that change the rules. From
there on `becomes_turn` says what one exchange makes of a rule and `ids_turn` what it
makes of the order, and both are carried along a run.

## Main definitions

* `removes`, `replaces`: What removes and what replaces a rule, as it is seen.
* `World.ids`: The identifiers of the rules, in their order.
* `Becomes`: What a rule has become when certain exchanges were seen.

## Theorems

* `removes_iff`, `replaces_iff`: What is seen of removals and replacements is true.
* `becomes_turn`, `becomes_run`: A rule that is not removed continues.
* `ids_turn`, `ids_run`: Rules that are not removed keep their order.
* `history_law`: What a rule goes through between two moments of a run.
-/

namespace Rulebook

namespace Service

open Http (Request Response)

/-- Whether an exchange removes the rule with an identifier. -/
def removes (id : RuleId) : Request × Response → Bool
  | (request, response) =>
    request.method = "DELETE" && response.status = 200 && pathId? request.path = some id

/-- Whether an exchange replaces the rule with an identifier. -/
def replaces (id : RuleId) : Request × Response → Bool
  | (request, response) =>
    request.method = "PUT" && response.status = 200 && pathId? request.path = some id

/-- The identifiers of the rules, in their order. -/
def World.ids (world : World) : List RuleId :=
  world.service.store.rules.map (·.id)

/-- What a rule has become when certain exchanges were seen. It was created when it was,
    and the time of its last change has not gone back. Its fields are those of the last
    replacement, or the old ones if there was none. -/
structure Becomes (id : RuleId) (seen : List (Request × Response)) (old new : Rule) : Prop where
  createdAt : new.createdAt = old.createdAt
  updatedAt : old.updatedAt ≤ new.updatedAt
  fields :
    match (seen.filter (replaces id)).getLast? with
    | none => new.fields = old.fields
    | some (request, _) => payload request = .ok new.fields

/-- A rule that is not replaced continues as it is. -/
theorem Becomes.unchanged {id : RuleId} {seen : List (Request × Response)}
    (kept : ∀ exchange ∈ seen, replaces id exchange = false) (rule : Rule) :
    Becomes id seen rule rule := by
  have none : seen.filter (replaces id) = [] :=
    List.filter_eq_nil_iff.2 fun exchange h => by rw [kept exchange h]; exact Bool.false_ne_true
  refine ⟨rfl, Instant.le_refl _, ?_⟩
  rw [none]
  rfl

theorem Becomes.unreplaced {id : RuleId} {exchange : Request × Response}
    (kept : replaces id exchange = false) (rule : Rule) : Becomes id [exchange] rule rule :=
  .unchanged (List.forall_mem_singleton.2 kept) rule

/-- What is seen later adds to what was seen before. -/
theorem Becomes.trans {id : RuleId} {first last : List (Request × Response)} {a b c : Rule}
    (hab : Becomes id first a b) (hbc : Becomes id last b c) :
    Becomes id (first ++ last) a c := by
  refine ⟨hbc.createdAt.trans hab.createdAt, Instant.le_trans hab.updatedAt hbc.updatedAt, ?_⟩
  have fields := hbc.fields
  rw [List.filter_append, List.getLast?_append]
  cases hlast : (last.filter (replaces id)).getLast? with
  | none =>
    rw [hlast] at fields
    rw [Option.none_or, fields]
    exact hab.fields
  | some exchange =>
    rw [hlast] at fields
    exact fields

/-! ## What is seen of an outcome -/

section

variable {service : Service} {outage : Outage} {moment : Moment} {request : Request}
  {inquiry : Inquiry}

-- An answer of this status is that of a success.
theorem exists_success (asks : Asks request inquiry) {origins : Origins}
    (status : (service.handle origins outage moment request).response.status = 200) :
    ∃ success, service.outcome outage moment request inquiry = .ok success := by
  rw [response_of_asks asks, status_sent] at status
  cases houtcome : service.outcome outage moment request inquiry with
  | ok success => exact ⟨success, rfl⟩
  | error problem =>
    rw [houtcome] at status
    exact absurd status (status_problem_ne problem).1

/-- What is seen as a removal is one. -/
theorem removes_iff (asks : Asks request inquiry) (origins : Origins) (id : RuleId) :
    removes id (request, (service.handle origins outage moment request).response) = true ↔
      service.outcome outage moment request inquiry = .ok (.deleted id) := by
  simp only [removes, Bool.and_eq_true, decide_eq_true_eq]
  constructor
  · rintro ⟨⟨method, status⟩, path⟩
    obtain rfl : inquiry = .delete id := asks_unique asks ⟨path, method⟩
    rcases exists_success asks status with ⟨success, houtcome⟩
    have yields := yields_of_outcome houtcome
    cases success with
    | deleted other => rw [houtcome, show other = id from yields]
    | _ => exact yields.elim
  · intro houtcome
    have yields := yields_of_outcome houtcome
    rw [response_of_asks asks, status_sent, houtcome]
    cases inquiry with
    | delete other =>
      obtain rfl : id = other := yields
      exact ⟨⟨asks.2, rfl⟩, asks.1⟩
    | _ => exact yields.elim

/-- What is seen as a replacement is one. -/
theorem replaces_iff (asks : Asks request inquiry) (origins : Origins) (id : RuleId) :
    replaces id (request, (service.handle origins outage moment request).response) = true ↔
      ∃ rule, rule.id = id ∧
        service.outcome outage moment request inquiry = .ok (.updated rule) := by
  simp only [replaces, Bool.and_eq_true, decide_eq_true_eq]
  constructor
  · rintro ⟨⟨method, status⟩, path⟩
    obtain rfl : inquiry = .update id := asks_unique asks ⟨path, method⟩
    rcases exists_success asks status with ⟨success, houtcome⟩
    have yields := yields_of_outcome houtcome
    cases success with
    | updated rule => exact ⟨rule, yields, houtcome⟩
    | _ => exact yields.elim
  · rintro ⟨rule, hid, houtcome⟩
    have yields := yields_of_outcome houtcome
    rw [response_of_asks asks, status_sent, houtcome]
    cases inquiry with
    | update other =>
      obtain rfl : id = other := hid.symm.trans yields
      exact ⟨⟨asks.2, rfl⟩, asks.1⟩
    | _ => exact yields.elim

-- What asks nothing about rules is seen as neither.
theorem not_seen_of_inquiry?_none (h : inquiry? request = none) (id : RuleId)
    (response : Response) :
    removes id (request, response) = false ∧ replaces id (request, response) = false := by
  have asksNot := not_asks_of_inquiry?_none h
  simp only [removes, replaces, ← Bool.not_eq_true, Bool.and_eq_true, decide_eq_true_eq]
  exact ⟨fun seen => asksNot (.delete id) ⟨seen.2, seen.1.1⟩,
    fun seen => asksNot (.update id) ⟨seen.2, seen.1.1⟩⟩

/-- A replacement that succeeds puts the fields of the payload into the rule that was
    there. -/
theorem updated_of_outcome {rule : Rule}
    (h : service.outcome outage moment request inquiry = .ok (.updated rule)) :
    ∃ fields old, payload request = .ok fields ∧ service.store.find? rule.id = some old ∧
      rule = old.apply fields moment.now := by
  have yields := yields_of_outcome h
  cases inquiry with
  | update id =>
    obtain rfl : rule.id = id := yields
    rw [outcome_update] at h
    split at h
    · simp only [reduceCtorEq] at h
    · rename_i fields taken
      split at h
      · simp only [reduceCtorEq] at h
      · split at h
        · rename_i old found
          simp only [Except.ok.injEq, Success.updated.injEq] at h
          exact ⟨fields, old, taken, found, h.symm⟩
        · simp only [reduceCtorEq] at h
  | _ => exact yields.elim

end

/-! ## One exchange -/

-- A rule is put into the place of one with its identifier.
theorem id_replaced (rule r : Rule) :
    (if r.id = rule.id then rule else r).id = r.id := by
  split
  · rename_i h
    exact h.symm
  · rfl

-- What a success makes of a rule that was there.
theorem find?_enter (success : Success) {rules : List Rule} {id : RuleId} {old : Rule}
    (found : rules.find? (·.id = id) = some old) :
    (success.enter rules).find? (·.id = id) =
      match success with
      | .updated rule => if rule.id = id then some rule else some old
      | .deleted other => if other = id then none else some old
      | .created _ | .listed _ | .fetched _ => some old := by
  have hid : old.id = id := by
    have named := List.find?_some found
    simpa only [decide_eq_true_eq] using named
  cases success with
  | listed rules' | fetched rule => exact found
  | created rule =>
    simp only [Success.enter]
    rw [List.find?_append, found, Option.some_or]
  | updated rule =>
    -- The new rule has the identifier of the one in whose place it is put.
    have same : (fun r : Rule => decide (r.id = id)) ∘
        (fun r => if r.id = rule.id then rule else r) = fun r => decide (r.id = id) := by
      funext r
      rw [Function.comp_apply, id_replaced]
    simp only [Success.enter]
    rw [List.find?_map, same, found, Option.map_some, hid]
    by_cases h : rule.id = id
    · rw [if_pos h, if_pos h.symm]
    · rw [if_neg h, if_neg (Ne.symm h)]
  | deleted other =>
    simp only [Success.enter]
    rw [List.find?_filter]
    by_cases h : other = id
    · -- What is left has another identifier.
      rw [if_pos h, List.find?_eq_none]
      intro r _
      simp only [h, ne_eq, decide_not, Bool.not_eq_eq_eq_not, Bool.not_true,
        decide_eq_false_iff_not, decide_eq_true_eq, not_and, imp_self]
    · rw [if_neg h, ← found]
      congr 1
      funext r
      by_cases hr : r.id = id
      · simp only [hr, ne_eq, Ne.symm h, not_false_eq_true, decide_true, and_self]
      · simp only [hr, decide_false, Bool.false_eq_true, and_false]

/-- A rule that a success does not remove has become what the success says. -/
theorem becomes_enter {service : Service} {outage : Outage} {moment : Moment}
    {request : Request} {inquiry : Inquiry} (asks : Asks request inquiry) {success : Success}
    (done : service.outcome outage moment request inquiry = .ok success) {id : RuleId}
    {old : Rule} (found : service.store.find? id = some old) (kept : success ≠ .deleted id)
    (origins : Origins) :
    ∃ new, (success.enter service.store.rules).find? (·.id = id) = some new ∧
      Becomes id [(request, (service.handle origins outage moment request).response)] old new := by
  have replaced : replaces id
      (request, (service.handle origins outage moment request).response) = true ↔ _ :=
    replaces_iff asks origins id
  rw [done] at replaced
  have unchanged (other : ∀ rule, success = .updated rule → rule.id ≠ id) :
      Becomes id [(request, (service.handle origins outage moment request).response)] old old := by
    refine .unreplaced (Bool.eq_false_iff.2 fun seen => ?_) old
    rcases replaced.1 seen with ⟨rule, hid, heq⟩
    exact other rule (Except.ok.inj heq) hid
  rw [find?_enter success found]
  cases success with
  | updated rule =>
    by_cases hid : rule.id = id
    · subst hid
      rcases updated_of_outcome done with ⟨fields, other, taken, there, rfl⟩
      obtain rfl : other = old := Option.some.inj (there.symm.trans found)
      refine ⟨_, if_pos rfl, rfl, Rule.updatedAt_le_apply .., ?_⟩
      rw [List.filter_cons_of_pos (replaced.2 ⟨_, rfl, rfl⟩)]
      exact taken
    · exact ⟨old, if_neg hid, unchanged fun other heq => Success.updated.inj heq ▸ hid⟩
  | deleted other =>
    exact ⟨old, if_neg fun hid => kept (congrArg _ hid), unchanged fun _ heq => nomatch heq⟩
  | created | listed | fetched => exact ⟨old, rfl, unchanged fun _ heq => nomatch heq⟩

/-- A rule that an exchange does not remove has become what the exchange says. -/
theorem becomes_turn {service : Service} (distinct : service.store.Distinct) (origins : Origins)
    (outage : Outage) (moment : Moment) (request : Request) {id : RuleId} {old : Rule}
    (found : service.store.find? id = some old) :
    let turn := service.handle origins outage moment request
    removes id (request, turn.response) = false →
      ∃ new, turn.service.store.find? id = some new ∧
        Becomes id [(request, turn.response)] old new := by
  intro turn kept
  cases h : inquiry? request with
  | none =>
    have unseen := (not_seen_of_inquiry?_none h id turn.response).2
    refine ⟨old, ?_, .unreplaced unseen old⟩
    rw [service_handle_of_inquiry?_none h]
    exact found
  | some inquiry =>
    have asks := inquiry?_eq_some_iff.1 h
    have rules := (handle_of_asks asks distinct origins outage moment).2
    have find : turn.service.store.find? id = turn.service.store.rules.find? (·.id = id) := rfl
    rw [find, rules]
    cases houtcome : service.outcome outage moment request inquiry with
    | error problem =>
      refine ⟨old, found, .unreplaced (Bool.eq_false_iff.2 fun seen => ?_) old⟩
      rcases (replaces_iff asks origins id).1 seen with ⟨rule, -, heq⟩
      rw [houtcome] at heq
      exact nomatch heq
    | ok success =>
      refine becomes_enter asks houtcome found (fun removed => ?_) origins
      rw [removed] at houtcome
      exact Bool.eq_false_iff.1 kept ((removes_iff asks origins id).2 houtcome)

-- A success leaves the rules that it does not remove in order, in front of the others.
theorem ids_enter (success : Success) (rules : List Rule) :
    ∃ added, (success.enter rules).map (·.id) =
      (rules.map (·.id)).filter (fun id => success ≠ .deleted id) ++ added := by
  have all (kept : ∀ id, success ≠ .deleted id) :
      (rules.map (·.id)).filter (fun id => success ≠ .deleted id) = rules.map (·.id) :=
    List.filter_eq_self.2 fun id _ => decide_eq_true (kept id)
  cases success with
  | listed | fetched =>
    rw [all fun _ => nofun]
    exact ⟨[], (List.append_nil _).symm⟩
  | created rule =>
    rw [all fun _ => nofun]
    exact ⟨[rule.id], List.map_append⟩
  | updated rule =>
    rw [all fun _ => nofun]
    refine ⟨[], ?_⟩
    simp only [Success.enter, List.map_map, List.append_nil]
    exact List.map_congr_left fun r _ => id_replaced rule r
  | deleted other =>
    refine ⟨[], ?_⟩
    simp only [Success.enter, List.filter_map, List.append_nil]
    congr 2
    funext r
    simp only [Function.comp_apply, ne_eq, Success.deleted.injEq, eq_comm]

/-- An exchange leaves the rules that it does not remove in order, in front of the
    others. -/
theorem ids_turn {service : Service} (distinct : service.store.Distinct) (origins : Origins)
    (outage : Outage) (moment : Moment) (request : Request) :
    let turn := service.handle origins outage moment request
    ∃ added, turn.service.store.rules.map (·.id) =
      (service.store.rules.map (·.id)).filter
        (fun id => !removes id (request, turn.response)) ++ added := by
  intro turn
  have all (kept : ∀ id, removes id (request, turn.response) = false) :
      (service.store.rules.map (·.id)).filter (fun id => !removes id (request, turn.response)) =
        service.store.rules.map (·.id) :=
    List.filter_eq_self.2 fun id _ => by rw [kept id]; rfl
  cases h : inquiry? request with
  | none =>
    have same : turn.service = service :=
      service_handle_of_inquiry?_none h service origins outage moment
    rw [all fun id => (not_seen_of_inquiry?_none h id _).1, same]
    exact ⟨[], (List.append_nil _).symm⟩
  | some inquiry =>
    have asks := inquiry?_eq_some_iff.1 h
    have rules : turn.service.store.rules = _ :=
      (handle_of_asks asks distinct origins outage moment).2
    have removed (id : RuleId) : removes id (request, turn.response) =
        decide (service.outcome outage moment request inquiry = .ok (.deleted id)) := by
      rw [Bool.eq_iff_iff, decide_eq_true_iff]
      exact removes_iff asks origins id
    rw [rules]
    cases houtcome : service.outcome outage moment request inquiry with
    | error problem =>
      rw [all fun id => by rw [removed, houtcome]; rfl]
      exact ⟨[], (List.append_nil _).symm⟩
    | ok success =>
      rcases ids_enter success service.store.rules with ⟨added, heq⟩
      refine ⟨added, heq.trans ?_⟩
      congr 2
      funext id
      rw [removed, houtcome]
      simp only [Except.ok.injEq, ne_eq, decide_not]

/-! ## Whole runs -/

/-- A rule that is not removed along a run has become what the run says. -/
theorem becomes_run (origins : Origins) {world : World} (distinct : world.service.store.Distinct)
    {id : RuleId} {old : Rule} (found : world.service.store.find? id = some old)
    (steps : List Step)
    (kept : ∀ exchange ∈ world.transcript origins steps, removes id exchange = false) :
    ∃ new, (world.run origins steps).service.store.find? id = some new ∧
      Becomes id (world.transcript origins steps) old new := by
  induction steps generalizing world old with
  | nil => exact ⟨old, found, .unchanged (fun _ h => absurd h List.not_mem_nil) old⟩
  | cons step rest ih =>
    have distinct' : (world.step origins step).service.store.Distinct :=
      World.distinct_run origins distinct [step]
    cases step with
    | outage outage => exact ih distinct' found kept
    | request moment request =>
      rw [World.transcript, List.forall_mem_cons] at kept
      rcases becomes_turn distinct origins world.outage moment request found kept.1 with
        ⟨middle, there, first⟩
      rcases ih distinct' there kept.2 with ⟨new, found', last⟩
      exact ⟨new, found', first.trans last⟩

/-- A run leaves the rules that it does not remove in order, in front of the others. -/
theorem ids_run (origins : Origins) {world : World} (distinct : world.service.store.Distinct)
    (steps : List Step) :
    ∃ added, (world.run origins steps).ids =
      world.ids.filter (fun id => !(world.transcript origins steps).any (removes id)) ++ added := by
  induction steps generalizing world with
  | nil =>
    refine ⟨[], ?_⟩
    rw [List.append_nil]
    exact (List.filter_eq_self.2 fun _ _ => rfl).symm
  | cons step rest ih =>
    have distinct' : (world.step origins step).service.store.Distinct :=
      World.distinct_run origins distinct [step]
    rcases ih distinct' with ⟨later, hrest⟩
    cases step with
    | outage outage => exact ⟨later, hrest⟩
    | request moment request =>
      rcases ids_turn distinct origins world.outage moment request with ⟨added, hturn⟩
      have stepped : (world.step origins (.request moment request)).ids = _ ++ added := hturn
      refine ⟨added.filter (fun id =>
        !((world.step origins (.request moment request)).transcript origins rest).any
          (removes id)) ++ later, ?_⟩
      -- What the rest of the run leaves of what this exchange has left.
      refine hrest.trans ?_
      rw [stepped, List.filter_append, List.filter_filter, List.append_assoc]
      congr 2
      funext id
      rw [World.transcript, List.any_cons, Bool.not_or, Bool.and_comm]
      rfl

-- Among what comes first in a row without repetitions, the rest of the row can be
-- left out.
theorem pair_sublist_iff {before after added : List RuleId} {kept : RuleId → Bool}
    (distinct : after.Nodup) (split : after = before.filter kept ++ added) {a b : RuleId}
    (ha : a ∈ before.filter kept) (hb : b ∈ before.filter kept) :
    [a, b].Sublist before ↔ [a, b].Sublist after := by
  constructor
  · intro h
    have both : [a, b].filter kept = [a, b] := List.filter_eq_self.2 fun x hx => by
      rw [List.mem_pair] at hx
      rcases hx with rfl | rfl
      · exact (List.mem_filter.1 ha).2
      · exact (List.mem_filter.1 hb).2
    rw [split, ← both]
    exact (h.filter kept).trans (List.sublist_append_left _ _)
  · intro h
    have both : [a, b].filter (· ∈ before.filter kept) = [a, b] :=
      List.filter_eq_self.2 fun x hx => by
        rw [List.mem_pair] at hx
        rcases hx with rfl | rfl
        · exact decide_eq_true ha
        · exact decide_eq_true hb
    have front : after.filter (· ∈ before.filter kept) = before.filter kept := by
      rw [split, List.nodup_append] at distinct
      have own : (before.filter kept).filter (· ∈ before.filter kept) = before.filter kept :=
        List.filter_eq_self.2 fun x hx => decide_eq_true hx
      have others : added.filter (· ∈ before.filter kept) = [] :=
        List.filter_eq_nil_iff.2 fun x hx hmem =>
          distinct.2.2 x (of_decide_eq_true hmem) x hx rfl
      rw [split, List.filter_append, own, others, List.append_nil]
    rw [← both]
    have inFront := h.filter (· ∈ before.filter kept)
    rw [front] at inFront
    exact inFront.trans List.filter_sublist

/-- Between two moments of a run that starts with rules of distinct identifiers, with
    whatever clocks, identifiers and failures: a rule that is there first and is not seen
    to be removed in between is there in the end. It was created when it was, and the time
    of its last change has not gone back. Its fields are those of the last replacement
    that was seen, or what they were if none was. Two such rules stand in one order at
    both moments. -/
theorem history_law (origins : Origins) {seeds : List Rule} (distinct : (seeds.map (·.id)).Nodup)
    (tally : Tally) (outage : Outage) (first between : List Step) :
    let start : World := { service := { store := ⟨seeds⟩, tally }, outage }
    let before := start.run origins first
    let after := before.run origins between
    let seen := before.transcript origins between
    (∀ (id : RuleId) (old : Rule), before.service.store.find? id = some old →
      (∀ exchange ∈ seen, removes id exchange = false) →
        ∃ new, after.service.store.find? id = some new ∧ Becomes id seen old new) ∧
    ∀ a b : RuleId, a ∈ before.ids → b ∈ before.ids →
      (∀ exchange ∈ seen, removes a exchange = false ∧ removes b exchange = false) →
        ([a, b].Sublist before.ids ↔ [a, b].Sublist after.ids) := by
  intro start before after seen
  have startDistinct : start.service.store.Distinct := distinct
  have beforeDistinct : before.service.store.Distinct :=
    World.distinct_run origins startDistinct first
  have afterDistinct : after.service.store.Distinct :=
    World.distinct_run origins beforeDistinct between
  refine ⟨fun id old found kept => becomes_run origins beforeDistinct found between kept,
    fun a b ha hb kept => ?_⟩
  rcases ids_run origins beforeDistinct between with ⟨added, split⟩
  have stays {id : RuleId} (there : id ∈ before.ids)
      (kept : ∀ exchange ∈ seen, removes id exchange = false) :
      id ∈ before.ids.filter fun id => !seen.any (removes id) := by
    refine List.mem_filter.2 ⟨there, ?_⟩
    rw [Bool.not_eq_true', List.any_eq_false]
    exact fun exchange h => Bool.eq_false_iff.1 (kept exchange h)
  exact pair_sublist_iff afterDistinct split (stays ha fun exchange h => (kept exchange h).1)
    (stays hb fun exchange h => (kept exchange h).2)

-- A rule is replaced while a clock runs behind, and stays in front of its neighbour.
theorem history_law_replacement :
    let early : Instant := ⟨0, 0, by decide, by decide, by decide⟩
    let late : Instant := ⟨60, 0, by decide, by decide, by decide⟩
    let old := Rule.create ⟨"a"⟩ ⟨"n", none, "c", "x", true⟩ late
    let neighbour := Rule.create ⟨"b"⟩ ⟨"m", none, "c", "x", true⟩ late
    let start : World := { service := { store := ⟨[old, neighbour]⟩ } }
    let replacement : Request :=
      { method := "PUT"
        path := Text.octets "/api/rules/a"
        headers := [("content-type", Text.octets "application/json")]
        body := Text.octets "[\"o\", null, \"c\", \"x\", false]" }
    let between := [Step.request ⟨early, ⟨"c"⟩, 0⟩ replacement]
    let seen := start.transcript ⟨[]⟩ between
    let after := start.run ⟨[]⟩ between
    ([old, neighbour].map (·.id)).Nodup ∧
      start.service.store.find? ⟨"a"⟩ = some old ∧
      (∀ exchange ∈ seen, removes ⟨"a"⟩ exchange = false ∧ removes ⟨"b"⟩ exchange = false) ∧
      (seen.filter (replaces ⟨"a"⟩)).length = 1 ∧
      (∃ new, after.service.store.find? ⟨"a"⟩ = some new ∧ Becomes ⟨"a"⟩ seen old new) ∧
      [⟨"a"⟩, ⟨"b"⟩].Sublist after.ids := by
  intro early late old neighbour start replacement between seen after
  have distinct : ([old, neighbour].map (·.id)).Nodup := by decide
  have kept : ∀ exchange ∈ seen,
      removes ⟨"a"⟩ exchange = false ∧ removes ⟨"b"⟩ exchange = false := by decide +kernel
  have law := history_law ⟨[]⟩ distinct {} Outage.none [] between
  have order := law.2 ⟨"a"⟩ ⟨"b"⟩ (by decide) (by decide) kept
  exact ⟨distinct, rfl, kept, by decide +kernel,
    law.1 ⟨"a"⟩ old rfl fun exchange h => (kept exchange h).1, order.1 (List.Sublist.refl _)⟩

end Service

end Rulebook

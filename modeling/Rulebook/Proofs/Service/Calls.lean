import Rulebook.Proofs.Service.Inquiry
import Rulebook.Proofs.Service.Outcome

/-!
# Which Calls Are Made

What a request does to the rules it does by calls, and what is known of the rules it
knows from the replies. To say that a call is made, or that none is, the rules are put
aside: an inquiry is carried out on a storage of any kind, which answers calls as it
likes. One such storage is a list of rules of which some calls fail, and on that one
`handle_eq_workOn` finds the service again. Another one is any storage that writes down
what it is asked before it asks someone else; what it has written down in the end are
the calls that were made.

There is one call at most, and which one is settled before it is made.

## Main definitions

* `Storage`: Something that answers calls.
* `Storage.ofOutage`: The rules, while something fails.
* `Storage.noting`: A storage that writes down what it is asked.
* `workOn`: Carries an inquiry out on any storage.
* `callsOn`: The calls that a request makes.

## Theorems

* `handle_eq_workOn`: A service works on its rules.
* `handle_of_workOn`: What is answered and kept then.
* `workOn_noting`: Writing calls down makes no other difference.
* `callsOn_of_asks`: The calls that an inquiry makes.
-/

namespace Rulebook

open Http (Request Response)

/-- Something that answers calls: with a reply, and with what it keeps from then on. -/
abbrev Storage (σ : Type) := σ → (call : Call) → Except Failure call.Reply × σ

namespace Storage

variable {σ : Type}

/-- The rules of a store, while something fails. -/
def ofOutage (outage : Outage) : Storage Store :=
  fun store call => store.runUnder outage call

/-- A storage that writes down what it is asked. -/
def noting (storage : Storage σ) : Storage (σ × List Call) :=
  fun (kept, calls) call =>
    let (reply, next) := storage kept call
    (reply, next, calls ++ [call])

end Storage

namespace Service

variable {σ : Type}

/-- Carries an inquiry out on a storage of any kind: what becomes of it, and what is kept
    then. -/
def workOn (storage : Storage σ) (kept : σ) (moment : Moment) (request : Request)
    (inquiry : Inquiry) : Except Problem Success × σ :=
  match inquiry.call request moment with
  | .error problem => (.error problem, kept)
  | .ok call =>
    let (reply, next) := storage kept call
    (conclude call reply, next)

/-- The calls that a request makes on a storage, in their order. -/
def callsOn (storage : Storage σ) (kept : σ) (moment : Moment) (request : Request) : List Call :=
  match inquiry? request with
  | some inquiry => (workOn storage.noting (kept, []) moment request inquiry).2.2
  | none => []

/-- A service works on its rules: what it answers, tells and counts is what becomes of
    the inquiry there. -/
theorem handle_eq_workOn {request : Request} {inquiry : Inquiry} (asks : Asks request inquiry)
    (service : Service) (origins : Origins) (outage : Outage) (moment : Moment) :
    let done := workOn (.ofOutage outage) service.store moment request inquiry
    service.handle origins outage moment request =
      { response := sent origins request (outcomeResponse done.1)
        events := outcomeEvents done.1
        service :=
          { store := done.2, tally := service.tally.track inquiry.operation done.1 } } := by
  intro done
  have made : done = (service.outcome outage moment request inquiry,
      service.storeAfter outage moment request inquiry) := by
    simp only [done, workOn, outcome, storeAfter]
    cases inquiry.call request moment <;> rfl
  rw [handle_of_inquiry? (inquiry?_eq_some_iff.2 asks), carryOut_eq, made]
  rfl

-- What is answered and kept is known from what becomes of the work.
theorem handle_of_workOn {service : Service} {outage : Outage} {moment : Moment} {request : Request}
    {inquiry : Inquiry} (asks : Asks request inquiry) {outcome : Except Problem Success}
    {store : Store}
    (done : workOn (.ofOutage outage) service.store moment request inquiry = (outcome, store))
    (origins : Origins) :
    let turn := service.handle origins outage moment request
    turn.response = sent origins request (outcomeResponse outcome) ∧
      turn.service.store = store := by
  intro turn
  have whole : turn = _ := handle_eq_workOn asks service origins outage moment
  rw [done] at whole
  rw [whole]
  exact ⟨rfl, rfl⟩

/-- Writing down the call, if there is one, makes no other difference. -/
theorem workOn_noting (storage : Storage σ) (kept : σ) (calls : List Call) (moment : Moment)
    (request : Request) (inquiry : Inquiry) :
    let done := workOn storage kept moment request inquiry
    workOn storage.noting (kept, calls) moment request inquiry =
      (done.1, done.2, calls ++ (inquiry.call request moment).toOption.toList) := by
  intro done
  simp only [done, workOn]
  cases inquiry.call request moment with
  | error problem =>
    simp only [Except.toOption, Option.toList_none, List.append_nil]
  | ok call => rfl

/-- An inquiry makes the call that it comes to, and no other. -/
theorem callsOn_of_asks {request : Request} {inquiry : Inquiry} (asks : Asks request inquiry)
    (storage : Storage σ) (kept : σ) (moment : Moment) :
    callsOn storage kept moment request = (inquiry.call request moment).toOption.toList := by
  simp only [callsOn, inquiry?_eq_some_iff.2 asks, workOn_noting, List.nil_append]

end Service

end Rulebook

import Rulebook.Problem
import Rulebook.Store

/-!
# Tallies

The service counts what became of requests about rules: successes by what was
asked, problems by their kind. Counts are words of sixty-four bits and start
over after the last one. They are written out, one to a line, in the text format
of the monitoring system that collects them.

## Main definitions

* `Operation.label`: How an operation is named in the text.
* `Tally`: The eight counts.
* `Tally.track`: Counts the outcome of an operation.
* `Tally.exposition`: The counts as text.

## Theorems

* `track_ok`, `track_error`: An outcome adds to one count only.
-/

namespace Rulebook

/-- The label of an operation. -/
def Operation.label : Operation → String
  | .list => "list"
  | .create => "create"
  | .get => "get"
  | .update => "update"
  | .delete => "delete"

/-- The counts of what became of requests. -/
structure Tally where
  listed : UInt64 := 0
  created : UInt64 := 0
  fetched : UInt64 := 0
  updated : UInt64 := 0
  deleted : UInt64 := 0
  invalid : UInt64 := 0
  notFound : UInt64 := 0
  store : UInt64 := 0
  deriving DecidableEq, Repr

namespace Tally

/-- Counts a success. -/
def success (t : Tally) : Operation → Tally
  | .list => { t with listed := t.listed + 1 }
  | .create => { t with created := t.created + 1 }
  | .get => { t with fetched := t.fetched + 1 }
  | .update => { t with updated := t.updated + 1 }
  | .delete => { t with deleted := t.deleted + 1 }

/-- Counts a problem. -/
def problem (t : Tally) : Problem → Tally
  | .invalid _ => { t with invalid := t.invalid + 1 }
  | .notFound => { t with notFound := t.notFound + 1 }
  | .store _ => { t with store := t.store + 1 }

/-- Counts the outcome of an operation. -/
def track {α : Type} (t : Tally) (operation : Operation) : Except Problem α → Tally
  | .ok _ => t.success operation
  | .error problem => t.problem problem

/-- The count of successes of an operation. -/
def successes (t : Tally) : Operation → UInt64
  | .list => t.listed
  | .create => t.created
  | .get => t.fetched
  | .update => t.updated
  | .delete => t.deleted

/-- The counts in their order. -/
def counts (t : Tally) : List UInt64 :=
  [t.listed, t.created, t.fetched, t.updated, t.deleted, t.invalid, t.notFound, t.store]

/-- The opening lines of a group of counts. -/
def heading (name help : String) : List String :=
  ["# HELP " ++ name ++ " " ++ help, "# TYPE " ++ name ++ " counter"]

/-- The line of a count that has a label. -/
def labelled (name label value : String) (count : UInt64) : String :=
  name ++ "\x7b" ++ label ++ "=\"" ++ value ++ "\"\x7d " ++ toString count.toNat

/-- The lines of the text form. -/
def lines (t : Tally) (uptime : Nat) : List String :=
  let operation (o : Operation) : String :=
    labelled "expense_rules_operations_total" "op" o.label (t.successes o)
  let error (kind : String) (count : UInt64) : String :=
    labelled "expense_rules_errors_total" "kind" kind count
  heading "expense_rules_uptime_seconds" "Application uptime in seconds" ++
  ["expense_rules_uptime_seconds " ++ toString uptime, ""] ++
  heading "expense_rules_operations_total" "Successful rule operations" ++
  [operation .list, operation .create, operation .get, operation .update, operation .delete, ""] ++
  heading "expense_rules_errors_total" "Failed rule operations by kind" ++
  [error "validation" t.invalid, error "not_found" t.notFound, error "store" t.store]

/-- The counts as text, after the seconds that the service has been up. -/
def exposition (t : Tally) (uptime : Nat) : String :=
  "".intercalate ((t.lines uptime).map (· ++ "\n"))

/-- A success adds to the count of its operation. -/
@[simp] theorem track_ok {α : Type} (t : Tally) (operation : Operation) (a : α) :
    t.track operation (.ok a) = t.success operation :=
  rfl

/-- A problem adds to the count of its kind. -/
@[simp] theorem track_error {α : Type} (t : Tally) (operation : Operation) (p : Problem) :
    t.track operation (.error p : Except Problem α) = t.problem p :=
  rfl

-- A success is seen in the count of its operation, and in no other's.
theorem successes_success (t : Tally) (o p : Operation) :
    (t.success o).successes p = if o = p then t.successes p + 1 else t.successes p := by
  cases o <;> cases p <;> simp [success, successes]

end Tally
end Rulebook

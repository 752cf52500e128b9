import Mathlib.Data.Prod.Lex
import Mathlib.Data.String.Basic
import Rulebook.Database.Session
import Rulebook.Proofs.Database.Table

/-!
# Servers

The database itself is not part of the program: it is a server that takes
statements and sends back replies, and its inside is its own affair. What the
program counts on is written down here. A server is `Ordinary` if it does to its
table what the statements say, each of them as a whole: one that would leave the
table in disorder is refused, and then nothing has changed; any other is
answered with what it finds, in the order that is asked for, and leaves the
table that it describes. Tuples that no order is asked for come in any order,
and how texts are ordered is up to the server; times are ordered as they are
counted.

That there are such servers is shown by one that keeps the tuples in a list.

## Main definitions

* `Server`: What takes statements and sends back replies.
* `Tuple.precedes`: The order that is asked for.
* `Server.Ordinary`: What is counted on.
* `Server.answer`, `Server.after`: Calls that are put to a server.
* `listServer`: A server that keeps its tuples in a list.

## Theorems

* `ordinary_listServer`: It is an ordinary one.
-/

namespace Rulebook
namespace Database

open Sql (Tuple Command Schema Outcome Violation evaluate)

/-- A server that takes statements. -/
structure Server where
  State : Type
  /-- The tuples of the table, in the order in which they happen to be kept. -/
  tuples : State → List Tuple
  execute : State → Statement → Reply × State
  /-- Whether one value may stand in front of another. -/
  ranks : Parameter → Parameter → Prop

/-- Whether one tuple may stand in front of another: the first of some columns
    in which their ranks differ decides. -/
def Sql.Tuple.precedes (ranks : Parameter → Parameter → Prop) : (order : List String) → Tuple →
    Tuple → Prop
  | [], _, _ => True
  | column :: order, a, b =>
    ranks (a.value column) (b.value column) ∧
      (ranks (b.value column) (a.value column) → precedes ranks order a b)

namespace Server

/-- What is counted on: the server does what the statements say. -/
structure Ordinary (server : Server) : Prop where
  /-- Times are ordered as they are counted. -/
  ranks_time : ∀ a b, server.ranks (.time a) (.time b) ↔ a ≤ b
  /-- A statement that cannot be carried out is refused, and changes nothing. -/
  refuses : ∀ {schema : Schema} {sql : String} {command : Command} {parameters : List Parameter}
    {state : server.State} {violation : Violation},
    Sql.readSchema script = some schema → Sql.read sql = some command →
    command.isWellFormed schema parameters = true →
    evaluate schema parameters (server.tuples state) command = .error violation →
    ∃ message after, server.execute state (.prepared sql parameters) = (.refused message, after) ∧
      (server.tuples after).Perm (server.tuples state)
  /-- Any other statement is carried out. -/
  answers : ∀ {schema : Schema} {sql : String} {command : Command} {parameters : List Parameter}
    {state : server.State} {outcome : Outcome},
    Sql.readSchema script = some schema → Sql.read sql = some command →
    command.isWellFormed schema parameters = true →
    evaluate schema parameters (server.tuples state) command = .ok outcome →
    ∃ (sent : List Tuple) (after : server.State), server.execute state (.prepared sql parameters) =
        (.rows (sent.map (schema.row outcome.columns)) outcome.affected, after) ∧
      sent.Perm outcome.found ∧
      sent.Pairwise (Tuple.precedes server.ranks outcome.order) ∧
      (server.tuples after).Perm outcome.table

/-- Puts a call to a server, through a session that is open. -/
def answer (server : Server) (state : server.State) (call : Call) :
    Except Failure call.Reply × server.State :=
  let (reply, after) := server.execute state (Statement.ofCall call)
  ((({} : Session).ask call reply).result, after)

/-- The state of a server behind some calls. -/
def after (server : Server) (state : server.State) (calls : List Call) : server.State :=
  calls.foldl (fun state call => (server.answer state call).2) state

end Server

/-! ## A server -/

/-- What the rank of a value hangs on: its type, then a number, then a text. A
    missing value comes last. -/
def standing : Parameter → Nat ×ₗ Int ×ₗ String
  | .text s => toLex (0, toLex (0, s))
  | .flag b => toLex (1, toLex (if b then 1 else 0, ""))
  | .time micros => toLex (2, toLex (micros, ""))
  | .number n => toLex (3, toLex (n, ""))
  | .octets hex => toLex (4, toLex (0, hex))
  | .null => toLex (5, toLex (0, ""))

/-- Values in the order of their standings: texts by their characters. -/
def standsBefore (a b : Parameter) : Prop :=
  standing a ≤ standing b

instance : DecidableRel standsBefore :=
  fun a b => inferInstanceAs (Decidable (standing a ≤ standing b))

theorem standsBefore_time (a b : Int) : standsBefore (.time a) (.time b) ↔ a ≤ b := by
  simp only [standsBefore, standing, Prod.Lex.toLex_le_toLex, lt_self_iff_false, false_or,
    true_and, le_refl, and_true]
  omega

theorem standsBefore_trans {a b c : Parameter} (hab : standsBefore a b) (hbc : standsBefore b c) :
    standsBefore a c :=
  le_trans hab hbc

theorem standsBefore_total (a b : Parameter) : standsBefore a b ∨ standsBefore b a :=
  le_total _ _

/-- Whether one tuple may stand in front of another, computed. -/
def precedesDecidable (order : List String) (a b : Tuple) :
    Decidable (Tuple.precedes standsBefore order a b) :=
  match order with
  | [] => inferInstanceAs (Decidable True)
  | _ :: order =>
    have := precedesDecidable order a b
    inferInstanceAs (Decidable (_ ∧ (_ → _)))

instance (order : List String) : DecidableRel (Tuple.precedes standsBefore order) :=
  precedesDecidable order

theorem precedes_trans (order : List String) {a b c : Tuple}
    (hab : Tuple.precedes standsBefore order a b) (hbc : Tuple.precedes standsBefore order b c) :
    Tuple.precedes standsBefore order a c := by
  induction order with
  | nil => trivial
  | cons column order ih =>
    rcases hab with ⟨hab, behindAB⟩
    rcases hbc with ⟨hbc, behindBC⟩
    refine ⟨standsBefore_trans hab hbc, fun hca => ?_⟩
    -- All three are level in this column.
    exact ih (behindAB (standsBefore_trans hbc hca)) (behindBC (standsBefore_trans hca hab))

theorem precedes_total (order : List String) (a b : Tuple) :
    Tuple.precedes standsBefore order a b ∨ Tuple.precedes standsBefore order b a := by
  induction order with
  | nil => exact Or.inl trivial
  | cons column order ih =>
    by_cases hab : standsBefore (a.value column) (b.value column)
    · by_cases hba : standsBefore (b.value column) (a.value column)
      · rcases ih with h | h
        · exact Or.inl ⟨hab, fun _ => h⟩
        · exact Or.inr ⟨hba, fun _ => h⟩
      · exact Or.inl ⟨hab, fun h => absurd h hba⟩
    · have hba := (standsBefore_total _ _).resolve_left hab
      exact Or.inr ⟨hba, fun h => absurd h hab⟩

/-- Tuples in the order that is asked for. -/
def arranged (order : List String) (tuples : List Tuple) : List Tuple :=
  tuples.mergeSort fun a b => decide (Tuple.precedes standsBefore order a b)

theorem pairwise_arranged (order : List String) (tuples : List Tuple) :
    (arranged order tuples).Pairwise (Tuple.precedes standsBefore order) := by
  have sorted : (arranged order tuples).Pairwise fun a b =>
      decide (Tuple.precedes standsBefore order a b) = true := by
    apply List.pairwise_mergeSort
    · intro a b c hab hbc
      exact decide_eq_true (precedes_trans order (of_decide_eq_true hab) (of_decide_eq_true hbc))
    · intro a b
      rw [Bool.or_eq_true, decide_eq_true_eq, decide_eq_true_eq]
      exact precedes_total order a b
  exact sorted.imp of_decide_eq_true

/-- How a refusal is worded. -/
def Sql.Violation.message : Violation → String
  | .unsendable => "invalid value"
  | .inadmissible => "column does not take the value"
  | .check => "table violates check constraint"
  | .duplicate => "duplicate key value violates unique constraint"

/-- What becomes of a statement, as far as it could be read. -/
def carryOut (schema : Schema) (parameters : List Parameter) (tuples : List Tuple) :
    Option Command → Reply × List Tuple
  | none => (.refused "syntax error", tuples)
  | some command =>
    match evaluate schema parameters tuples command with
    | .error violation => (.refused violation.message, tuples)
    | .ok outcome =>
      (.rows ((arranged outcome.order outcome.found).map (schema.row outcome.columns))
        outcome.affected, outcome.table)

theorem carryOut_of_error {schema : Schema} {parameters : List Parameter} {tuples : List Tuple}
    {command : Command} {violation : Violation}
    (h : evaluate schema parameters tuples command = .error violation) :
    carryOut schema parameters tuples (some command) =
      (.refused violation.message, tuples) := by
  simp only [carryOut, h]

theorem carryOut_of_ok {schema : Schema} {parameters : List Parameter} {tuples : List Tuple}
    {command : Command} {outcome : Outcome}
    (h : evaluate schema parameters tuples command = .ok outcome) :
    carryOut schema parameters tuples (some command) =
      (.rows ((arranged outcome.order outcome.found).map (schema.row outcome.columns))
        outcome.affected, outcome.table) := by
  simp only [carryOut, h]

/-- A server that keeps the tuples of a table in a list. What it cannot read it
    refuses. -/
def listServer (schema : Schema) : Server where
  State := List Tuple
  tuples state := state
  execute tuples
    | .script _ => (.rows [] 0, tuples)
    | .prepared sql parameters => carryOut schema parameters tuples (Sql.read sql)
  ranks := standsBefore

/-- The server that keeps its tuples in a list is an ordinary one. -/
theorem ordinary_listServer {schema : Schema} (made : Sql.readSchema script = some schema) :
    (listServer schema).Ordinary where
  ranks_time := standsBefore_time
  refuses := by
    intro other sql command parameters state violation hschema hread _ hevaluate
    have same : schema = other := Option.some.inj (made.symm.trans hschema)
    subst same
    refine ⟨violation.message, state, ?_, List.Perm.refl _⟩
    change carryOut schema parameters state (Sql.read sql) = _
    rw [hread]
    exact carryOut_of_error hevaluate
  answers := by
    intro other sql command parameters state outcome hschema hread _ hevaluate
    have same : schema = other := Option.some.inj (made.symm.trans hschema)
    subst same
    refine ⟨arranged outcome.order outcome.found, outcome.table, ?_, List.mergeSort_perm _ _,
      pairwise_arranged _ _, List.Perm.refl _⟩
    change carryOut schema parameters state (Sql.read sql) = _
    rw [hread]
    exact carryOut_of_ok hevaluate

end Database
end Rulebook

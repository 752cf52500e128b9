import Rulebook.Database.Statement
import Rulebook.Text.Quoted
import Rulebook.Text.Stray

/-!
# Rows and Replies

What a database sends back. A row is looked at by the names of its columns, in
the order in which the parts of a rule stand, and the first part that cannot be
made out decides. A reply without rows and a refusal are different things: the
one says that nothing is there, the other is a failure.

## Main definitions

* `Cell`, `Column`, `Row`: What rows consist of.
* `Parameter.cell`: A bound value, as it comes back.
* `decode`: The entry that a cell holds.
* `Row.rule`: The rule that a row holds.
* `Reply`, `concludeReply`: What a reply to a call amounts to.

## Theorems

* `concludeReply_refused`: A refusal is never an absence.
-/

namespace Rulebook
namespace Database

open Record (Key Kind)
open Text (Octets)

/-- What stands in a row at a column: octets, or nothing. -/
abbrev Cell := Option Octets

/-- A column of a row. -/
structure Column where
  name : String
  /-- The name of its type. -/
  type : String
  deriving DecidableEq, Repr

/-- A row: its columns with what stands there. -/
abbrev Row := List (Column × Cell)

/-- The number of words of eight octets. -/
def wordCount : Nat := 18446744073709551616

/-- A whole number in eight octets, the highest first; negative numbers wrap. -/
def eightOctets (n : Int) : Octets :=
  let word := (n % wordCount).toNat
  [56, 48, 40, 32, 24, 16, 8, 0].map fun shift => (word >>> shift % 256).toUInt8

/-- The number that octets make up, the highest first, read as signed. -/
def signedOf (bs : Octets) : Int :=
  let word : Nat := bs.foldl (fun n b => n * 256 + b.toNat) 0
  if 2 * word < wordCount then word else (word : Int) - wordCount

/-- A bound value, as it comes back in a row. -/
def Parameter.cell : Parameter → Cell
  | .text s => some (Text.octets s)
  | .null => none
  | .flag b => some [if b then 1 else 0]
  | .time micros => some (eightOctets micros)
  | .number n => some (eightOctets n)
  | .octets hex => some (Text.octets hex)

/-- The types that a kind of entry can be made out of. -/
def fitting : Kind → List String
  | .text | .textOrNull => ["TEXT", "NAME", "CHAR", "VARCHAR", "UNKNOWN"]
  | .flag => ["BOOL"]
  | .time => ["TIMESTAMPTZ"]

/-- How a refusal calls the type that an entry has here. -/
def hereName : Kind → String
  | .text => "alloc::string::String"
  | .textOrNull => "core::option::Option<alloc::string::String>"
  | .flag => "bool"
  | .time => "chrono::datetime::DateTime<chrono::offset::utc::Utc>"

/-- The type that a kind of entry usually has in the database. -/
def thereName : Kind → String
  | .text | .textOrNull => "TEXT"
  | .flag => "BOOL"
  | .time => "TIMESTAMPTZ"

/-- The failure to make a column out. -/
def undecodable (name reason : String) : Failure :=
  Failure.under { text := reason }
    ("error occurred while decoding column " ++ Text.quoted name ++ ": " ++ reason)

/-- A column of the wrong type. -/
def mismatch (kind : Kind) (type : String) : String :=
  "mismatched types; Rust type `" ++ hereName kind ++ "` (as SQL type `" ++ thereName kind ++
    "`) is not compatible with SQL type `" ++ type ++ "`"

/-- The text that octets make up. -/
def decodeText (bs : Octets) : Except String String :=
  match Text.ofOctets? bs with
  | some s => .ok s
  | none => .error (Text.strayMessage bs)

/-- The entry that octets hold. -/
def decodeOctets : (kind : Kind) → Octets → Except String kind.Entry
  | .text, bs => decodeText bs
  | .textOrNull, bs => (decodeText bs).map some
  | .flag, bs => .ok (bs.head? ≠ some 0)
  | .time, bs =>
    match instantOf? (signedOf bs) with
    | some a => .ok a
    | none => .error "out of range"

/-- The entry that a cell of a column holds. Only a text may be missing. -/
def decode (kind : Kind) (column : Column) : Cell → Except String kind.Entry
  | some bs =>
    if (fitting kind).contains column.type then decodeOctets kind bs
    else .error (mismatch kind column.type)
  | none =>
    match kind with
    | .textOrNull => .ok none
    | _ => .error "unexpected null; try decoding as an `Option`"

namespace Row

/-- The column of a row with a name, and what stands there. Of several columns with one
    name the last is the one that counts. -/
def column? (row : Row) (name : String) : Option (Column × Cell) :=
  row.reverse.find? (·.1.name = name)

/-- The entry of a row under a name. -/
def entry (row : Row) (key : Key) : Except Failure key.kind.Entry :=
  match row.column? key.written with
  | none => .error { text := "no column found for name: " ++ key.written }
  | some (column, cell) =>
    match decode key.kind column cell with
    | .ok entry => .ok entry
    | .error reason => .error (undecodable key.written reason)

/-- The rule that a row holds. -/
def rule (row : Row) : Except Failure Rule := do
  let id ← row.entry .id
  let name ← row.entry .name
  let description ← row.entry .description
  let condition ← row.entry .condition
  let action ← row.entry .action
  let isActive ← row.entry .isActive
  let createdAt ← row.entry .createdAt
  let updatedAt ← row.entry .updatedAt
  return {
    id := ⟨id⟩
    fields := { name, description, condition, action, isActive }
    createdAt, updatedAt }

/-- A rule as a row, its columns in their order. -/
def ofRule (rule : Rule) : Row :=
  (Rule.shape.columns.map fun key => ⟨key.written, thereName key.kind⟩).zip
    ((ruleParameters rule).map Parameter.cell)

end Row

/-- What a database sends back. -/
inductive Reply where
  /-- Rows, and how many rows of the table the statement changed. -/
  | rows (rows : List Row) (affected : Nat)
  /-- The statement was refused. -/
  | refused (message : String)
  /-- The connection was closed in the place of a reply. -/
  | dropped

/-- The failure of a refused statement. -/
def refusal (message : String) : Failure :=
  Failure.under { text := message } ("error returned from database: " ++ message)

/-- The failure of a connection. -/
def disconnection (reason : String) : Failure :=
  Failure.under { text := reason } ("error communicating with database: " ++ reason)

/-- The failure of a connection that was closed in the place of a reply. -/
def droppedFailure : Failure :=
  disconnection "expected to read 5 bytes, got 0 bytes at EOF"

/-- What a reply amounts to where nothing was asked for. -/
def Reply.outcome : Reply → Except Failure Unit
  | .refused message => .error (refusal message)
  | .dropped => .error droppedFailure
  | .rows .. => .ok ()

/-- The rule in the first of some rows, if there is one. -/
def firstRule : List Row → Except Failure (Option Rule)
  | [] => .ok none
  | row :: _ => row.rule.map some

/-- What a reply to a call amounts to. -/
def concludeReply : (call : Call) → Reply → Except Failure call.Reply
  | _, .refused message => .error (refusal message)
  | _, .dropped => .error droppedFailure
  | .list, .rows rows _ => rows.mapM Row.rule
  | .create _, .rows .. => .ok ()
  | .get _, .rows rows _ => firstRule rows
  | .update .., .rows rows _ => firstRule rows
  | .delete _, .rows _ affected => .ok (0 < affected)

/-- A refusal is never an absence. -/
@[simp] theorem concludeReply_refused (call : Call) (message : String) :
    concludeReply call (.refused message) = .error (refusal message) := by
  cases call <;> rfl

end Database
end Rulebook

import Rulebook.Database.Row
import Rulebook.Proofs.Database.Sql

/-!
# Tables

What the statements do, to whom it may concern. A table is a row of tuples, in
no order that matters; a statement finds some of them, puts one in, changes some
or strikes some, and it does all of that or none of it. A table that a statement
would leave behind has to be in order: every value is of the type of its column
and there where one is needed, no tuple fails a check, and no two have one key.

Values that cannot be sent at all are refused before anything else is looked at.
They are the texts with a null character, which the database cannot keep, and
the times that lie outside its calendar.

Nothing is said of a statement that asks for columns that are not there, that
mixes types, or that changes keys: those are compared while rows are still being
changed. `Command.isWellFormed` tells the others.

## Main definitions

* `Tuple`: A row of a table.
* `isSendable`: Whether a value can be sent.
* `Schema.violation?`: What is wrong with a table.
* `Command.isWellFormed`: Whether a statement fits a table and its values.
* `Outcome`, `perform`, `evaluate`: What a statement does.
-/

namespace Rulebook
namespace Database
namespace Sql

/-! ## Values -/

/-- The first time that the database keeps. -/
def firstMicros : Int := -211813488000000000

/-- The end of the times that the database keeps. -/
def endMicros : Int := 9223371331200000000

/-- Whether a value can be sent. -/
def isSendable : Parameter → Bool
  | .text s => !s.toList.contains (Char.ofNat 0)
  | .time micros => firstMicros ≤ micros && micros < endMicros
  | _ => true

/-- Whether a value is of a type. No value is of every type. -/
def isOfType (type : String) : Parameter → Bool
  | .text _ => type = "TEXT"
  | .flag _ => type = "BOOLEAN"
  | .time _ => type = "TIMESTAMPTZ"
  | .null => true
  | _ => false

/-- The later of two times. Where one is missing it is the other. -/
def greatest : Parameter → Parameter → Parameter
  | .time a, .time b => .time (max a b)
  | .null, b => b
  | a, _ => a

/-- A row of a table: its values, under the names of their columns. -/
abbrev Tuple := List (String × Parameter)

/-- The value of a tuple in a column. -/
def Tuple.value (tuple : Tuple) (column : String) : Parameter :=
  (tuple.lookup column).getD .null

namespace Term

/-- What a term stands for, in the sight of a tuple. -/
def eval (parameters : List Parameter) (tuple : Tuple) : Term → Parameter
  | .bound place => parameters.getD (place - 1) .null
  | .column name => tuple.value name
  | .greatest a b => Sql.greatest (a.eval parameters tuple) (b.eval parameters tuple)

/-- The highest place of a bound value. -/
def places : Term → Nat
  | .bound place => place
  | .column _ => 0
  | .greatest a b => max a.places b.places

/-- Whether a term stands for a value of a type. -/
def isOfType (schema : Schema) (parameters : List Parameter) (type : String) : Term → Bool
  | .bound place =>
    0 < place && (parameters[place - 1]?.map (Sql.isOfType type)).getD false
  | .column name => schema.columns.any fun column => column.name = name && column.type = type
  | .greatest a b =>
    type = "TIMESTAMPTZ" && a.isOfType schema parameters type && b.isOfType schema parameters type

end Term

/-- Whether a tuple is meant. A missing value is equal to none. -/
def Pick.holds (parameters : List Parameter) (pick : Pick) (tuple : Tuple) : Bool :=
  let value := pick.value.eval parameters tuple
  tuple.value pick.column = value && value ≠ .null

/-! ## What is allowed -/

namespace Schema

/-- Whether there is a column of a name. -/
def has (schema : Schema) (name : String) : Bool :=
  schema.columns.any (·.name = name)

/-- The type of a column. -/
def typeOf (schema : Schema) (name : String) : String :=
  ((schema.columns.find? (·.name = name)).map (·.type)).getD ""

/-- Whether every column has a value of its type, and has one where one is
    needed. -/
def admits (schema : Schema) (tuple : Tuple) : Bool :=
  schema.columns.all fun column =>
    isOfType column.type (tuple.value column.name) &&
      (!column.needed || tuple.value column.name ≠ .null)

/-- Whether a tuple passes the checks. A missing value fails none. -/
def checks (schema : Schema) (tuple : Tuple) : Bool :=
  schema.ordered.all fun (low, high) =>
    match tuple.value low, tuple.value high with
    | .time a, .time b => a ≤ b
    | _, _ => true

/-- The values by which the tuples of a table are told apart. -/
def keys (schema : Schema) (tuples : List Tuple) : List Parameter :=
  match schema.key with
  | some key => tuples.map (·.value key)
  | none => []

end Schema

/-- What may be wrong. -/
inductive Violation where
  /-- A value that cannot be sent. -/
  | unsendable
  /-- A value that a column does not take. -/
  | inadmissible
  | check
  | duplicate
  deriving DecidableEq, Repr

/-- What is wrong with a table, if anything is. -/
def Schema.violation? (schema : Schema) (tuples : List Tuple) : Option Violation :=
  if ¬ tuples.all schema.admits then some .inadmissible
  else if ¬ tuples.all schema.checks then some .check
  else if ¬ (schema.keys tuples).Nodup then some .duplicate
  else none

namespace Command

/-- The highest place of a bound value. -/
def places : Command → Nat
  | .select _ _ pick _ => (pick.map (·.value.places)).getD 0
  | .insert _ _ values => (values.map (·.places)).foldl max 0
  | .update _ changes pick _ => (changes.map (·.2.places)).foldl max pick.value.places
  | .delete _ pick => pick.value.places

/-- Whether a pick compares a column with a value of its type. -/
def fits (schema : Schema) (parameters : List Parameter) (pick : Pick) : Bool :=
  schema.has pick.column &&
    pick.value.isOfType schema parameters (schema.typeOf pick.column)

/-- Whether values of the right types are put into columns, none of them twice. -/
def assigns (schema : Schema) (parameters : List Parameter)
    (changes : List (String × Term)) : Bool :=
  (changes.map (·.1)).Nodup &&
    changes.all fun (name, value) =>
      schema.has name && value.isOfType schema parameters (schema.typeOf name)

/-- Whether a statement fits a table and the values that are bound to it. -/
def isWellFormed (schema : Schema) (parameters : List Parameter) (command : Command) : Bool :=
  parameters.length = command.places &&
    match command with
    | .select columns table pick order =>
      table = schema.table && columns.all schema.has && order.all schema.has &&
        pick.all (fits schema parameters)
    | .insert table columns values =>
      table = schema.table && columns.length = values.length &&
        assigns schema parameters (columns.zip values)
    | .update table changes pick columns =>
      table = schema.table && assigns schema parameters changes &&
        !(changes.any fun (name, _) => schema.key = some name) &&
        fits schema parameters pick && columns.all schema.has
    | .delete table pick => table = schema.table && fits schema parameters pick

end Command

/-! ## What is done -/

/-- What a statement does. -/
structure Outcome where
  /-- The tuples that are sent back, before they are put into an order. -/
  found : List Tuple := []
  /-- What of them is sent back. -/
  columns : List String := []
  /-- The columns by which they are put into an order. -/
  order : List String := []
  /-- How many tuples were concerned. -/
  affected : Nat
  /-- The table afterwards. -/
  table : List Tuple

/-- A new tuple. A column that is not spoken of takes what it falls back to. -/
def Schema.tuple (schema : Schema) (values : List (String × Parameter)) : Tuple :=
  schema.columns.map fun column =>
    (column.name, (values.lookup column.name).getD column.fallback)

/-- A tuple with some of its values replaced. The new ones are made out of the
    old ones, all at once. -/
def Tuple.change (parameters : List Parameter) (changes : List (String × Term))
    (tuple : Tuple) : Tuple :=
  tuple.map fun (name, value) =>
    (name, ((changes.lookup name).map (·.eval parameters tuple)).getD value)

/-- An outcome, if the table that it leaves is in order. -/
def Schema.settle (schema : Schema) (outcome : Outcome) : Except Violation Outcome :=
  match schema.violation? outcome.table with
  | some violation => .error violation
  | none => .ok outcome

/-- What a statement does to a table, once its values have been taken. -/
def perform (schema : Schema) (parameters : List Parameter) (tuples : List Tuple) :
    Command → Except Violation Outcome
  | .select columns _ pick order =>
    let found := tuples.filter fun tuple => pick.all (·.holds parameters tuple)
    .ok { found, columns, order, affected := found.length, table := tuples }
  | .insert _ columns values =>
    let tuple := schema.tuple (columns.zip (values.map (·.eval parameters [])))
    schema.settle { affected := 1, table := tuples ++ [tuple] }
  | .update _ changes pick columns =>
    let found := tuples.filter (pick.holds parameters)
    schema.settle {
      found := found.map (·.change parameters changes)
      columns
      affected := found.length
      table := tuples.map fun tuple =>
        if pick.holds parameters tuple then tuple.change parameters changes else tuple }
  | .delete _ pick =>
    .ok {
      affected := (tuples.filter (pick.holds parameters)).length
      table := tuples.filter fun tuple => !pick.holds parameters tuple }

/-- What a statement does to a table. -/
def evaluate (schema : Schema) (parameters : List Parameter) (tuples : List Tuple)
    (command : Command) : Except Violation Outcome :=
  if parameters.all isSendable then perform schema parameters tuples command
  else .error .unsendable

/-- What is sent back of a tuple. -/
def Schema.row (schema : Schema) (columns : List String) (tuple : Tuple) : Row :=
  columns.map fun name => (⟨name, sentType (schema.typeOf name)⟩, (tuple.value name).cell)
where
  /-- The name under which values of a type are sent back. -/
  sentType (type : String) : String :=
    if type = "BOOLEAN" then "BOOL" else type

end Sql
end Database
end Rulebook

import Rulebook.Database.Migration
import Rulebook.Database.Statement

/-!
# The Language of the Statements

The texts that are sent to a database are written in a language of its own, and
what they do is decided by what they say: which bound value stands for which
column, which rows are meant, in which order they are asked for. So the texts
are read here, word by word, and not taken for what the calls mean by them. Only
as much of the language is read as the texts use: rows of one table that are
picked by one column, put in, changed, struck and listed.

The script that makes the table is read in the same way.

## Main definitions

* `words`: The words and signs of a text.
* `Term`, `Pick`, `Command`: What a statement may say.
* `read`: The statement that a text says.
* `Declaration`, `Schema`: What a script may say of a table.
* `readSchema`: The table that a script makes.

## Theorems

* `read_list`, `read_create`, `read_get`, `read_update`, `read_delete`: What the
  statements of the calls say.
* `readSchema_script`: What the script says.
-/

namespace Rulebook
namespace Database
namespace Sql

/-! ## Words -/

/-- Whether a character belongs to a word, and not to the space between words or
    to the signs. -/
def isWordSign (c : Char) : Bool :=
  c.isAlphanum || c = '_' || c = '$'

/-- A word in front of further ones, if it is one. -/
def closeWord (word : List Char) (rest : List String) : List String :=
  if word.isEmpty then rest else String.ofList word :: rest

/-- The words and signs of a text, behind the start of a word. -/
def wordsFrom : (word : List Char) → List Char → List String
  | word, [] => closeWord word []
  | word, c :: rest =>
    if isWordSign c then wordsFrom (word ++ [c]) rest
    else if c = ' ' then closeWord word (wordsFrom [] rest)
    else closeWord word (String.singleton c :: wordsFrom [] rest)

/-- The words and signs of a text. -/
def words (text : List Char) : List String :=
  wordsFrom [] text

/-- The names at the start of some words, with commas between them. -/
def readNames : List String → List String × List String
  | name :: "," :: rest => ((name :: (readNames rest).1), (readNames rest).2)
  | name :: rest => ([name], rest)
  | [] => ([], [])

/-! ## Statements -/

/-- What stands for a value. -/
inductive Term where
  /-- A bound value, counted from one. -/
  | bound (place : Nat)
  | column (name : String)
  /-- The later of two. -/
  | greatest (a b : Term)
  deriving DecidableEq, Repr

/-- Which rows are meant: those with a value in a column. -/
structure Pick where
  column : String
  value : Term
  deriving DecidableEq, Repr

/-- What a statement may say. -/
inductive Command where
  | select (columns : List String) (table : String) (pick : Option Pick) (order : List String)
  | insert (table : String) (columns : List String) (values : List Term)
  | update (table : String) (changes : List (String × Term)) (pick : Pick)
      (columns : List String)
  | delete (table : String) (pick : Pick)
  deriving DecidableEq, Repr

/-- What a single word stands for. -/
def term (word : String) : Term :=
  match word.toList with
  | '$' :: digits => .bound (digits.foldl (fun n d => n * 10 + (d.toNat - 48)) 0)
  | _ => .column word

/-- The changes at the start of some words, with commas between them. -/
def readChanges : List String → List (String × Term) × List String
  | name :: "=" :: "GREATEST" :: "(" :: a :: "," :: b :: ")" :: "," :: rest =>
    ((name, .greatest (term a) (term b)) :: (readChanges rest).1, (readChanges rest).2)
  | name :: "=" :: "GREATEST" :: "(" :: a :: "," :: b :: ")" :: rest =>
    ([(name, .greatest (term a) (term b))], rest)
  | name :: "=" :: a :: "," :: rest =>
    ((name, term a) :: (readChanges rest).1, (readChanges rest).2)
  | name :: "=" :: a :: rest => ([(name, term a)], rest)
  | rest => ([], rest)

/-- The end of a listing, from behind its table on. -/
def readListing (columns : List String) (table : String) : List String → Option Command
  | [] => some (.select columns table none [])
  | ["WHERE", column, "=", value] => some (.select columns table (some ⟨column, term value⟩) [])
  | "ORDER" :: "BY" :: rest =>
    match readNames rest with
    | (order, []) => some (.select columns table none order)
    | _ => none
  | _ => none

/-- The statement that some words say. -/
def readWords : List String → Option Command
  | "SELECT" :: rest =>
    match readNames rest with
    | (columns, "FROM" :: table :: rest) => readListing columns table rest
    | _ => none
  | "INSERT" :: "INTO" :: table :: "(" :: rest =>
    match readNames rest with
    | (columns, ")" :: "VALUES" :: "(" :: rest) =>
      match readNames rest with
      | (values, [")"]) => some (.insert table columns (values.map term))
      | _ => none
    | _ => none
  | "UPDATE" :: table :: "SET" :: rest =>
    match readChanges rest with
    | (changes, "WHERE" :: column :: "=" :: value :: "RETURNING" :: rest) =>
      match readNames rest with
      | (columns, []) => some (.update table changes ⟨column, term value⟩ columns)
      | _ => none
    | _ => none
  | ["DELETE", "FROM", table, "WHERE", column, "=", value] =>
    some (.delete table ⟨column, term value⟩)
  | _ => none

/-- The statement that a text says, as far as it is read here. -/
def read (text : String) : Option Command :=
  readWords (words text.toList)

/-! ## Tables -/

/-- What is said of a column of a table. -/
structure Declaration where
  name : String
  type : String
  /-- Whether there has to be a value. -/
  needed : Bool := false
  /-- The value where none is given. -/
  fallback : Parameter := .null
  deriving DecidableEq, Repr

/-- What is said of a table. -/
structure Schema where
  table : String
  columns : List Declaration := []
  /-- The column by which rows are told apart. -/
  key : Option String := none
  /-- Pairs of columns of which the second is never before the first. -/
  ordered : List (String × String) := []
  deriving DecidableEq, Repr

namespace Schema

/-- Says more of the column that was declared last. -/
def amend (schema : Schema) (change : Declaration → Declaration) : Schema :=
  { schema with
    columns := schema.columns.dropLast ++ schema.columns.getLast?.toList.map change }

/-- Makes the column that was declared last the key, which has to have a value. -/
def keyed (schema : Schema) : Schema :=
  { schema.amend fun column => { column with needed := true } with
    key := schema.columns.getLast?.map (·.name) }

/-- Reads what is said of a table, up to the bracket that closes it. -/
def readFrom (schema : Schema) : List String → Option Schema
  | ")" :: _ => some schema
  | "," :: rest => readFrom schema rest
  | "PRIMARY" :: "KEY" :: rest => readFrom schema.keyed rest
  | "NOT" :: "NULL" :: rest =>
    readFrom (schema.amend fun column => { column with needed := true }) rest
  | "DEFAULT" :: "TRUE" :: rest =>
    readFrom (schema.amend fun column => { column with fallback := .flag true }) rest
  | "CONSTRAINT" :: _ :: "CHECK" :: "(" :: low :: "<" :: "=" :: high :: ")" :: rest =>
    readFrom { schema with ordered := schema.ordered ++ [(low, high)] } rest
  | name :: type :: rest =>
    readFrom { schema with columns := schema.columns ++ [{ name, type }] } rest
  | _ => none

end Schema

/-- The table that some words make. What is said behind the table is about speed
    alone. -/
def readSchemaWords : List String → Option Schema
  | "CREATE" :: "TABLE" :: "IF" :: "NOT" :: "EXISTS" :: table :: "(" :: rest =>
    Schema.readFrom { table } rest
  | _ => none

/-- The table that a script makes, as far as it is read here. -/
def readSchema (script : String) : Option Schema :=
  readSchemaWords (words script.toList)

/-- The table of the rules. -/
def rulesSchema : Schema where
  table := "rules"
  columns := [
    { name := "id", type := "TEXT", needed := true },
    { name := "name", type := "TEXT", needed := true },
    { name := "description", type := "TEXT" },
    { name := "condition", type := "TEXT", needed := true },
    { name := "action", type := "TEXT", needed := true },
    { name := "is_active", type := "BOOLEAN", needed := true, fallback := .flag true },
    { name := "created_at", type := "TIMESTAMPTZ", needed := true },
    { name := "updated_at", type := "TIMESTAMPTZ", needed := true }]
  key := some "id"
  ordered := [("created_at", "updated_at")]

/-! ## What is said -/

/-- The script makes the table of the rules. -/
theorem readSchema_script : readSchema script = some rulesSchema := by
  -- The text is taken apart into characters by lemmas: what remains to be
  -- computed is only how they are read.
  have spelled : ∀ cs, script.toList = cs → readSchemaWords (words cs) = some rulesSchema := by
    intro cs h
    unfold script at h
    repeat rw [String.toList_append] at h
    repeat rw [String.toList_ofList] at h
    subst h
    decide +kernel
  exact spelled _ rfl

/-- The columns of a rule, in their order. -/
def ruleColumns : List String :=
  ["id", "name", "description", "condition", "action", "is_active", "created_at", "updated_at"]

-- The names of the columns, one behind the other.
theorem columnNames_eq : columnNames = "id" ++ ", " ++ "name" ++ ", " ++ "description" ++ ", " ++
    "condition" ++ ", " ++ "action" ++ ", " ++ "is_active" ++ ", " ++ "created_at" ++ ", " ++
    "updated_at" :=
  rfl

/-- The text of a statement, whatever it is bound to. -/
def textOf : Statement → String
  | .prepared sql _ => sql
  | .script sql => sql

-- A text says what its characters are read as.
theorem read_of_spelled {text : String} {command : Option Command}
    (spelled : ∀ cs, text.toList = cs → readWords (words cs) = command) : read text = command :=
  spelled _ rfl

theorem read_list : read (textOf (Statement.ofCall .list)) =
    some (.select ruleColumns "rules" none ["created_at", "id"]) := by
  apply read_of_spelled
  intro cs h
  simp only [Statement.ofCall, textOf, columnNames_eq, String.toList_append] at h
  repeat rw [String.toList_ofList] at h
  subst h
  decide +kernel

theorem read_create (rule : Rule) : read (textOf (Statement.ofCall (.create rule))) =
    some (.insert "rules" ruleColumns
      [.bound 1, .bound 2, .bound 3, .bound 4, .bound 5, .bound 6, .bound 7, .bound 8]) := by
  apply read_of_spelled
  intro cs h
  simp only [Statement.ofCall, textOf, columnNames_eq, String.toList_append] at h
  repeat rw [String.toList_ofList] at h
  subst h
  decide +kernel

theorem read_get (id : RuleId) : read (textOf (Statement.ofCall (.get id))) =
    some (.select ruleColumns "rules" (some ⟨"id", .bound 1⟩) []) := by
  apply read_of_spelled
  intro cs h
  simp only [Statement.ofCall, textOf, columnNames_eq, String.toList_append] at h
  repeat rw [String.toList_ofList] at h
  subst h
  decide +kernel

theorem read_update (id : RuleId) (fields : Fields) (now : Instant) :
    read (textOf (Statement.ofCall (.update id fields now))) =
      some (.update "rules"
        [("name", .bound 2), ("description", .bound 3), ("condition", .bound 4),
          ("action", .bound 5), ("is_active", .bound 6),
          ("updated_at", .greatest (.bound 7) (.column "updated_at"))]
        ⟨"id", .bound 1⟩ ruleColumns) := by
  apply read_of_spelled
  intro cs h
  simp only [Statement.ofCall, textOf, columnNames_eq, String.toList_append] at h
  repeat rw [String.toList_ofList] at h
  subst h
  decide +kernel

theorem read_delete (id : RuleId) : read (textOf (Statement.ofCall (.delete id))) =
    some (.delete "rules" ⟨"id", .bound 1⟩) := by
  apply read_of_spelled
  intro cs h
  simp only [Statement.ofCall, textOf] at h
  rw [String.toList_ofList] at h
  subst h
  decide +kernel

end Sql
end Database
end Rulebook

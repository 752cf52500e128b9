import Rulebook.Record.Shape
import Rulebook.Store

/-!
# Statements

The same calls that a store in memory answers can be put to a relational
database. Each call is one statement; what varies in it is bound as a parameter
and never written into the text. Times are bound as whole microseconds since the
start of the year 2000.

## Main definitions

* `Parameter`: What is bound to a statement.
* `Statement`: A text with its parameters.
* `microsOf`, `instantOf?`: Times as the database counts them.
* `Statement.ofCall`: The statement of a call.

## Theorems

* `instantOf?_microsOf`: A whole microsecond comes back as it was.
-/

namespace Rulebook
namespace Database

/-- The start of the year 2000, in seconds since that of 1970. -/
def epochSeconds : Int := 946684800

/-- What is bound to a statement. -/
inductive Parameter where
  | text (s : String)
  | null
  | flag (b : Bool)
  /-- Microseconds since the start of the year 2000. -/
  | time (micros : Int)
  | number (n : Int)
  /-- Octets, in hexadecimal. -/
  | octets (hex : String)
  deriving DecidableEq, Repr

/-- A statement. A script is sent as it is and takes no parameters. -/
inductive Statement where
  | prepared (sql : String) (parameters : List Parameter)
  | script (sql : String)
  deriving DecidableEq, Repr

/-- An instant as the database counts it. What is finer than a microsecond is
    dropped, toward the start of the count. -/
def microsOf (a : Instant) : Int :=
  Int.tdiv ((a.seconds - epochSeconds) * 1000000000 + a.nanos) 1000

/-- The instant that a count stands for, where the calendar has it. -/
def instantOf? (micros : Int) : Option Instant :=
  Instant.of? (micros / 1000000 + epochSeconds) ((micros % 1000000).toNat * 1000)

/-- A whole microsecond outside a leap second comes back as it was. -/
theorem instantOf?_microsOf {a : Instant} (whole : a.isWhole = true) (h : a.nanos < 1000000000) :
    instantOf? (microsOf a) = some a := by
  have hw : a.nanos % 1000 = 0 := by simpa [Instant.isWhole] using whole
  have hm : microsOf a = (a.seconds - epochSeconds) * 1000000 + (a.nanos / 1000 : Nat) := by
    unfold microsOf
    have : (a.seconds - epochSeconds) * 1000000000 + (a.nanos : Int) =
        ((a.seconds - epochSeconds) * 1000000 + (a.nanos / 1000 : Nat)) * 1000 := by omega
    rw [this, Int.mul_tdiv_cancel _ (by decide)]
  have hs : microsOf a / 1000000 + epochSeconds = a.seconds := by omega
  have hn : (microsOf a % 1000000).toNat * 1000 = a.nanos := by omega
  have hfit := a.nanosFit
  unfold instantOf? Instant.of?
  rw [dif_pos ⟨by rw [hs]; exact a.notBefore, by rw [hs]; exact a.notAfter, by omega⟩]
  simp only [Option.some.injEq]
  exact Instant.ext_parts hs hn

/-- The names of the columns of a rule, with commas between them. -/
def columnNames : String :=
  ", ".intercalate (Rule.shape.columns.map (·.written))

/-- A text that may be missing, as a parameter. -/
def optionalText : Option String → Parameter
  | some s => .text s
  | none => .null

/-- A rule as parameters, in the order of its columns. -/
def ruleParameters (rule : Rule) : List Parameter :=
  [.text rule.id.text, .text rule.fields.name, optionalText rule.fields.description,
    .text rule.fields.condition, .text rule.fields.action, .flag rule.fields.isActive,
    .time (microsOf rule.createdAt), .time (microsOf rule.updatedAt)]

namespace Statement

/-- The statement of a call. -/
def ofCall : Call → Statement
  | .list => .prepared ("SELECT " ++ columnNames ++ " FROM rules ORDER BY created_at, id") []
  | .create rule =>
    .prepared ("INSERT INTO rules (" ++ columnNames ++
      ") VALUES ($1, $2, $3, $4, $5, $6, $7, $8)") (ruleParameters rule)
  | .get id =>
    .prepared ("SELECT " ++ columnNames ++ " FROM rules WHERE id = $1") [.text id.text]
  | .update id fields now =>
    .prepared ("UPDATE rules SET name = $2, description = $3, condition = $4, action = $5, " ++
      "is_active = $6, updated_at = GREATEST($7, updated_at) WHERE id = $1 RETURNING " ++
      columnNames)
      [.text id.text, .text fields.name, optionalText fields.description, .text fields.condition,
        .text fields.action, .flag fields.isActive, .time (microsOf now.floorMicros)]
  | .delete id => .prepared "DELETE FROM rules WHERE id = $1" [.text id.text]

/-- The statement that shows whether the database is within reach. -/
def reach : Statement := .prepared "SELECT 1" []

end Statement
end Database
end Rulebook

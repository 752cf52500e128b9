import Rulebook.Text.Octets
import Rulebook.Text.Quoted
import Rulebook.Decimal.Shortest

/-!
# Faults of JSON Texts

A reader that refuses a text says what it met, where, and inside which member.
What was met is a `Cause`; causes about the form of the text are told apart from
causes about the values in it, because a caller is answered differently. The
place is kept as the number of octets still unread, so that no reader has to
count lines: line and column are worked out once, from the whole text.

## Main definitions

* `Cause`: What can be wrong, with `Cause.message` and `Cause.isData`.
* `Found`: The kind of value that stood in the wrong place.
* `Fault`: A cause with its place and the member it arose in.
* `Place.after`: Line and column after a number of octets.
* `Fault.describe`: The wording of a fault, with its place.
-/

namespace Rulebook
namespace Json

open Text (Octets)

/-- The kind of value that stood where another was wanted. -/
inductive Found where
  | null
  | bool (b : Bool)
  | int (n : Int)
  | fraction (x : Float)
  | text (s : String)
  | list
  | object

/-- How a misplaced value is named. -/
def Found.name : Found → String
  | .null => "null"
  | .bool b => "boolean `" ++ (if b then "true" else "false") ++ "`"
  | .int n => "integer `" ++ toString n ++ "`"
  | .fraction x => "floating point `" ++ Decimal.floatText x ++ "`"
  | .text s => "string " ++ Text.quoted s
  | .list => "sequence"
  | .object => "map"

/-- Why a text is refused. -/
inductive Cause where
  /-- The text ends where a value should stand, or inside one. -/
  | endInValue
  | endInList
  | endInObject
  | endInText
  | expectedValue
  | expectedWord
  | expectedColon
  | expectedCommaOrBracket
  | expectedCommaOrBrace
  | nameNotText
  | trailingComma
  | trailingText
  | badNumber
  | numberTooLarge
  | badEscape
  /-- The octets of a text are not UTF-8. -/
  | badOctets
  | loneSurrogate
  | endOfHexEscape
  | controlInText
  /-- A value of the wrong kind. -/
  | misplaced (found : Found) (wanted : String)
  | missing (member : String)
  | repeated (member : String)
  | wrongLength (length : Nat) (wanted : String)
  /-- A text of the right kind that does not mean anything. -/
  | meaningless (message : String)

/-- The wording of a cause. -/
def Cause.message : Cause → String
  | .endInValue => "EOF while parsing a value"
  | .endInList => "EOF while parsing a list"
  | .endInObject => "EOF while parsing an object"
  | .endInText => "EOF while parsing a string"
  | .expectedValue => "expected value"
  | .expectedWord => "expected ident"
  | .expectedColon => "expected `:`"
  | .expectedCommaOrBracket => "expected `,` or `]`"
  | .expectedCommaOrBrace => "expected `,` or `\x7d`"
  | .nameNotText => "key must be a string"
  | .trailingComma => "trailing comma"
  | .trailingText => "trailing characters"
  | .badNumber => "invalid number"
  | .numberTooLarge => "number out of range"
  | .badEscape => "invalid escape"
  | .badOctets => "invalid unicode code point"
  | .loneSurrogate => "lone leading surrogate in hex escape"
  | .endOfHexEscape => "unexpected end of hex escape"
  | .controlInText => "control character (\\u0000-\\u001F) found while parsing a string"
  | .misplaced found wanted => "invalid type: " ++ found.name ++ ", expected " ++ wanted
  | .missing member => "missing field `" ++ member ++ "`"
  | .repeated member => "duplicate field `" ++ member ++ "`"
  | .wrongLength length wanted =>
    "invalid length " ++ toString length ++ ", expected " ++ wanted
  | .meaningless message => message

/-- Whether a cause is about the values of a text rather than about its form. -/
def Cause.isData : Cause → Bool
  | .misplaced .. | .missing _ | .repeated _ | .wrongLength .. | .meaningless _ => true
  | _ => false

/-- A cause with its place. -/
structure Fault where
  cause : Cause
  /-- How many octets of the text were left unread. -/
  left : Nat
  /-- The member or item inside whose value the fault arose. -/
  member : Option String := none

/-- A reader of the front of a sequence of octets. -/
abbrev Read (α : Type) := Octets → Except Fault (α × Octets)

/-- A fault with everything in front of `rest` read. -/
def faultAt {α : Type} (cause : Cause) (rest : Octets) : Except Fault α :=
  .error { cause, left := rest.length }

/-- A fault over the first octet of `rest`, which counts as read. -/
def faultOver {α : Type} (cause : Cause) (rest : Octets) : Except Fault α :=
  .error { cause, left := rest.length - 1 }

/-- A place in a text: lines from one, columns in octets from zero. -/
structure Place where
  line : Nat
  column : Nat
  deriving DecidableEq, Repr

/-- The place after a sequence of octets. -/
def Place.after (read : Octets) : Place :=
  read.foldl (fun p b => if b = 10 then ⟨p.line + 1, 0⟩ else ⟨p.line, p.column + 1⟩) ⟨1, 0⟩

/-- Where in a text a fault arose. -/
def Fault.place (fault : Fault) (whole : Octets) : Place :=
  Place.after (whole.take (whole.length - fault.left))

/-- The wording of a fault, with its place. -/
def Fault.describe (fault : Fault) (whole : Octets) : String :=
  let p := fault.place whole
  fault.cause.message ++ " at line " ++ toString p.line ++ " column " ++ toString p.column

end Json
end Rulebook

import Rulebook.Json.Blank
import Rulebook.Json.Text
import Rulebook.Json.Number

/-!
# Values Nobody Asked For

A member with an unknown name is passed over. Its value is checked for its form
only: numbers may be of any size, texts may hold any octets, and brackets may be
nested to any depth, because the open ones are kept in a list and not in the
depth of a recursion.

## Main definitions

* `Bracket`: An open list or object.
* `skipText`: Passes over the inside of a text.
* `closeBrackets`: Passes over the brackets that close behind a value.
* `skipValue`: Passes over a value.
-/

namespace Rulebook
namespace Json

open Text (Octets)

/-- Passes over the inside of a text up to its closing quote. Only the form of
    escapes is checked. -/
def skipText : Octets → Except Fault Octets
  | [] => faultAt .endInText []
  | 0x22 :: rest => .ok rest
  | 0x5C :: 0x75 :: a :: b :: c :: d :: rest =>
    match hexUnit? a b c d with
    | none => faultAt .badEscape rest
    | some _ => skipText rest
  | 0x5C :: 0x75 :: _ => faultAt .endInText []
  | 0x5C :: b :: rest =>
    match escapeOctet? b with
    | none => faultAt .badEscape rest
    | some _ => skipText rest
  | 0x5C :: [] => faultAt .endInText []
  | b :: rest => if b < 0x20 then faultAt .controlInText (b :: rest) else skipText rest

/-- An open bracket. -/
inductive Bracket where
  | list
  | object
  deriving DecidableEq, Repr

namespace Bracket

/-- The octet that closes a bracket. -/
def closing : Bracket → UInt8
  | .list => 0x5D
  | .object => 0x7D

/-- The refusal of a text that ends inside a bracket. -/
def atEnd : Bracket → Cause
  | .list => .endInList
  | .object => .endInObject

/-- The refusal of anything but a comma or the closing bracket. -/
def atOther : Bracket → Cause
  | .list => .expectedCommaOrBracket
  | .object => .expectedCommaOrBrace

end Bracket

/-- Passes over the brackets that close here, and over the comma behind them.
    Returns the brackets that are still open, innermost first; none are when
    the whole value has been passed over. `filled` says that the innermost open
    bracket holds a value already, so that a comma may follow. -/
def closeBrackets : (filled : Bool) → List Bracket → Octets → Except Fault (List Bracket × Octets)
  | _, [], bs => .ok ([], bs)
  | filled, inner :: outer, bs =>
    match skipBlanks bs with
    | [] => faultAt inner.atEnd []
    | b :: rest =>
      if filled ∧ b = 0x2C then .ok (inner :: outer, rest)
      else if b = inner.closing then closeBrackets true outer rest
      else if filled then faultOver inner.atOther (b :: rest)
      else .ok (inner :: outer, b :: rest)

/-- Passes over the name of a member and the colon behind it. -/
def skipName (bs : Octets) : Except Fault Octets :=
  match skipBlanks bs with
  | [] => faultAt .endInObject []
  | 0x22 :: rest => do
    let rest ← skipText rest
    match skipBlanks rest with
    | [] => faultAt .endInObject []
    | 0x3A :: rest => .ok rest
    | rest => faultOver .expectedColon rest
  | rest => faultOver .nameNotText rest

/-- Passes over a value that is no bracket, from its first octet on. -/
def skipScalar (first : UInt8) (rest : Octets) : Except Fault Octets :=
  if first = 0x6E then readWord restOfNull rest
  else if first = 0x74 then readWord restOfTrue rest
  else if first = 0x66 then readWord restOfFalse rest
  else if first = 0x22 then skipText rest
  else if first = 0x2D then skipDigits rest
  else if isDigit first then skipDigits (first :: rest)
  else faultOver .expectedValue (first :: rest)

/-- Passes over a value and whatever closes behind it, until no bracket is open.
    Every round reads an octet at least, so a round for each octet is enough. -/
def skipOpen : (rounds : Octets) → List Bracket → Octets → Except Fault Octets
  | [], _, bs => faultAt .endInValue bs
  | _ :: rounds, opened, bs =>
    match skipBlanks bs with
    | [] => faultAt .endInValue []
    | b :: rest => do
      let (opened, bs) ←
        if b = 0x5B then closeBrackets false (.list :: opened) rest
        else if b = 0x7B then closeBrackets false (.object :: opened) rest
        else skipScalar b rest >>= closeBrackets true opened
      match opened with
      | [] => .ok bs
      | .list :: _ => skipOpen rounds opened bs
      | .object :: _ => skipName bs >>= skipOpen rounds opened

/-- Passes over a value. -/
def skipValue (bs : Octets) : Except Fault Octets :=
  skipOpen bs [] bs

end Json
end Rulebook

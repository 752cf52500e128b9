import Rulebook.Http.Token

/-!
# Media Types

A body is taken for JSON if its media type says so: `application/json`, or a
type of applications whose name ends in `+json`. The whole of the type has to be
well formed, with the parameters that may follow it, although these are not
looked at.

## Main definitions

* `MediaType`: A main type and a subtype.
* `MediaType.read?`: The media type that a value consists of.
* `MediaType.isJson`: Whether bodies of a type are JSON.

## Theorems

* `isJson_application_json`: The plain type is JSON.
-/

namespace Rulebook
namespace Http

open Text (Octets octets)

/-- A media type, in small letters. -/
structure MediaType where
  main : Octets
  /-- The subtype in front of its last plus. -/
  sub : Octets
  /-- What follows the last plus of the subtype. -/
  suffix : Option Octets
  deriving DecidableEq

/-- What the parameters of a media type may continue with. -/
inductive ParameterState where
  /-- Blanks, or the first octet of a name. -/
  | start
  /-- More of a name. -/
  | name
  /-- The first octet of a value. -/
  | value
  /-- More of a value. -/
  | bare
  /-- The first octet inside quotes. -/
  | quote
  /-- More of what is inside quotes. -/
  | quoted
  /-- Blanks, or a semicolon, behind quotes. -/
  | closed
  deriving DecidableEq, Repr

namespace ParameterState

/-- Whether an octet may stand inside quotes. -/
def isQuotable (b : UInt8) : Bool :=
  0x20 ≤ b && b ≠ 0x7F

/-- The state behind one more octet, if that may stand there. -/
def step? (b : UInt8) : ParameterState → Option ParameterState
  | .start => if b = 0x20 then some .start else if isTokenOctet b then some .name else none
  | .name => if b = 0x3D then some .value else if isTokenOctet b then some .name else none
  | .value => if b = 0x22 then some .quote else if isTokenOctet b then some .bare else none
  | .bare => if b = 0x3B then some .start else if isTokenOctet b then some .bare else none
  | .quote => if isQuotable b then some .quoted else none
  | .quoted => if b = 0x22 then some .closed else if isQuotable b then some .quoted else none
  | .closed => if b = 0x3B then some .start else if b = 0x20 then some .closed else none

/-- Whether the parameters may end here. -/
def mayEnd : ParameterState → Bool
  | .start | .value | .bare | .closed => true
  | .name | .quote | .quoted => false

end ParameterState

/-- Whether a sequence consists of well-formed parameters. -/
def areParameters (bs : Octets) : Bool :=
  match bs.foldlM (fun state b => ParameterState.step? b state) .start with
  | some state => state.mayEnd
  | none => false

namespace MediaType

/-- Splits a subtype at its last plus, except where that comes first. -/
def splitSuffix (sub : Octets) : Octets × Option Octets :=
  let ending := (sub.reverse.takeWhile (· ≠ 0x2B)).reverse
  let before := sub.length - ending.length - 1
  if ending.length < sub.length ∧ 0 < before then (sub.take before, some ending) else (sub, none)

/-- The media type that a value consists of. -/
def read? (bs : Octets) : Option MediaType := do
  guard (isVisible bs)
  let main := bs.takeWhile isTokenOctet
  guard (!main.isEmpty && bs[main.length]? = some 0x2F)
  let rest := bs.drop (main.length + 1)
  let sub := rest.takeWhile isTokenOctet
  match rest.drop sub.length with
  | [] => pure ()
  | 0x3B :: parameters => guard (!sub.isEmpty && areParameters parameters)
  | _ => none
  let (sub, suffix) := splitSuffix (lowered sub)
  return { main := lowered main, sub, suffix }

/-- Whether bodies of a type are JSON. -/
def isJson (type : MediaType) : Bool :=
  type.main = octets "application" &&
    (type.sub = octets "json" || type.suffix = some (octets "json"))

end MediaType

/-- The plain type is JSON. -/
theorem isJson_application_json :
    (MediaType.read? (octets "application/json")).map MediaType.isJson = some true := by
  decide +kernel

end Http
end Rulebook

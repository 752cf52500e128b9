import Rulebook.Http.Token

/-!
# Request Targets

What a request is aimed at: a path with or without a query, or the full form
with a scheme and an authority in front. Only the path decides who answers, so
of a well-formed target only the path is kept; what follows a question mark or a
number sign is checked and dropped.

## Main definitions

* `TargetFault`: Why a target is refused, with `TargetFault.message`.
* `pathOf`: The path of a target that starts with it.
* `authorityEnd`: How far an authority reaches.
* `schemeLength?`: How far a scheme reaches.
* `readTarget`: The path of a target.
-/

namespace Rulebook
namespace Http

open Text (Octets)

/-- Why a target is refused. -/
inductive TargetFault where
  | empty
  | tooLong
  | strayCharacter
  | badAuthority
  | badForm
  | schemeTooLong
  deriving DecidableEq, Repr

/-- The wording of a refusal. -/
def TargetFault.message : TargetFault → String
  | .empty => "empty string"
  | .tooLong => "uri too long"
  | .strayCharacter => "invalid uri character"
  | .badAuthority => "invalid authority"
  | .badForm => "invalid format"
  | .schemeTooLong => "scheme too long"

/-- Whether an octet may stand in a path. Braces and the quote may, since some
    callers send them bare; so may all octets outside ASCII. -/
def isPathOctet (b : UInt8) : Bool :=
  b = 0x21 || b = 0x22 || (0x24 ≤ b && b ≤ 0x3B) || b = 0x3D || (0x40 ≤ b && b ≤ 0x5F) ||
    (0x61 ≤ b && b ≤ 0x7E) || 0x80 ≤ b

/-- Whether an octet may stand in a query. -/
def isQueryOctet (b : UInt8) : Bool :=
  b = 0x21 || (0x24 ≤ b && b ≤ 0x3B) || b = 0x3D || (0x3F ≤ b && b ≠ 0x7F)

/-- Checks a query up to a number sign. -/
def checkQuery (bs : Octets) : Except TargetFault Unit :=
  if (bs.takeWhile (· ≠ 0x23)).all isQueryOctet then .ok () else .error .strayCharacter

/-- The path that a sequence starts with; the empty path is the root. -/
def pathOf (bs : Octets) : Except TargetFault Octets := do
  let path := bs.takeWhile fun b => b ≠ 0x3F && b ≠ 0x23
  if !path.all isPathOctet then .error .strayCharacter
  else
    match bs.drop path.length with
    | 0x3F :: query => checkQuery query
    | _ => .ok ()
    .ok (if path.isEmpty then [0x2F] else path)

/-- Whether an octet may stand in an authority, apart from the percent sign. -/
def isAuthorityOctet (b : UInt8) : Bool :=
  isLetter b || isDigit b || (Text.octets "!$&'()*+,-.:;=@[]_~").contains b

/-- What has been seen of an authority. -/
structure AuthorityScan where
  /-- Colons since the last at sign or closing bracket. -/
  colons : Nat := 0
  opened : Bool := false
  closed : Bool := false
  /-- A percent sign since the last at sign or closing bracket. -/
  percent : Bool := false
  /-- Whether the last octet was an at sign. -/
  endsWithAt : Bool := false

/-- Takes note of one octet of an authority. -/
def AuthorityScan.step (s : AuthorityScan) (b : UInt8) : Except TargetFault AuthorityScan :=
  let s := { s with endsWithAt := b = 0x40 }
  if b = 0x3A then
    if 8 ≤ s.colons then .error .badAuthority else .ok { s with colons := s.colons + 1 }
  else if b = 0x5B then
    if s.percent ∨ s.opened then .error .badAuthority else .ok { s with opened := true }
  else if b = 0x5D then
    if s.opened ∧ ¬ s.closed then .ok { s with closed := true, colons := 0, percent := false }
    else .error .badAuthority
  else if b = 0x40 then .ok { s with colons := 0, percent := false }
  else if b = 0x25 then .ok { s with percent := true }
  else if isAuthorityOctet b then .ok s
  else .error .strayCharacter

/-- How many octets of a sequence are its authority, which ends before a slash,
    a question mark or a number sign. A percent sign may stand only in front of
    an at sign, or between brackets. -/
def authorityEnd (bs : Octets) : Except TargetFault Nat := do
  let authority := bs.takeWhile fun b => b ≠ 0x2F && b ≠ 0x3F && b ≠ 0x23
  let s ← authority.foldlM AuthorityScan.step {}
  if s.opened ≠ s.closed ∨ 1 < s.colons ∨ s.endsWithAt ∨ s.percent then .error .badAuthority
  else .ok authority.length

/-- Whether an octet may stand in a scheme. -/
def isSchemeOctet (b : UInt8) : Bool :=
  isLetter b || isDigit b || (Text.octets "+-.~").contains b

/-- How many octets of a target are its scheme, if it has one. -/
def schemeLength? (bs : Octets) : Except TargetFault (Option Nat) :=
  let scheme := bs.takeWhile isSchemeOctet
  if (bs.drop scheme.length).take 3 = Text.octets "://" ∧ 3 < bs.length then
    if 64 < scheme.length then .error .schemeTooLong else .ok (some scheme.length)
  else .ok none

/-- The longest target. -/
def longestTarget : Nat := 65534

/-- The path of a target in the full form. A target that is an authority alone
    has no path. -/
def readFullTarget (bs : Octets) : Except TargetFault Octets := do
  match ← schemeLength? bs with
  | none =>
    if (← authorityEnd bs) = bs.length then .ok [] else .error .badForm
  | some n =>
    let bs := bs.drop (n + 3)
    if bs.isEmpty then .error .empty
    else
      match ← authorityEnd bs with
      | 0 => .error .badForm
      | n => pathOf (bs.drop n)

/-- The path of a target. -/
def readTarget (bs : Octets) : Except TargetFault Octets :=
  if longestTarget < bs.length then .error .tooLong
  else
    match bs with
    | [] => .error .empty
    | [0x2F] | [0x2A] => .ok bs
    | 0x2F :: _ => pathOf bs
    | [_] => do if (← authorityEnd bs) = 1 then .ok [] else .error .strayCharacter
    | _ => readFullTarget bs

end Http
end Rulebook

import Rulebook.Decimal.Digits

/-!
# Socket Addresses

Where a service listens: an address of four octets or of eight groups, and a
port. Names are not looked up. An address of eight groups stands in brackets;
its longest row of zero groups is written as two colons, and where it holds an
address of four octets, that is written with dots.

## Main definitions

* `Socket`: Addresses with ports.
* `Socket.read?`: Reads an address.
* `Socket.text`: The written form of an address.
-/

namespace Rulebook

/-- An address with a port. -/
inductive Socket where
  | four (octets : List Nat) (port : Nat)
  /-- Eight groups, and the number of an interface, or zero. -/
  | six (groups : List Nat) (scope port : Nat)
  deriving DecidableEq, Repr

namespace Socket

/-- A reader of the front of a text. -/
abbrev Read (α : Type) := List Char → Option (α × List Char)

/-- The value of a digit in a base up to sixteen, in letters of either case. -/
def digit? (base : Nat) (c : Char) : Option Nat :=
  let n := c.toNat
  let value :=
    if 48 ≤ n ∧ n ≤ 57 then n - 48
    else if 97 ≤ n ∧ n ≤ 102 then n - 87
    else if 65 ≤ n ∧ n ≤ 70 then n - 55
    else base
  if value < base then some value else none

/-- The number written by digits. -/
def valueOf (base : Nat) (cs : List Char) : Nat :=
  cs.foldl (fun n c => n * base + (digit? base c).getD 0) 0

/-- Reads a number of at least one digit, below a bound. -/
def readNumber (base bound : Nat) : Read Nat := fun cs =>
  let ds := cs.takeWhile fun c => (digit? base c).isSome
  let n := valueOf base ds
  if ds.isEmpty ∨ bound ≤ n then none else some (n, cs.drop ds.length)

/-- Passes over a character. -/
def readMark (mark : Char) : Read Unit
  | c :: rest => if c = mark then some ((), rest) else none
  | [] => none

/-- Reads an octet: at most three digits, and no zero in front. -/
def readOctet : Read Nat := fun cs =>
  let ds := cs.takeWhile fun c => (digit? 10 c).isSome
  if 3 < ds.length ∨ (1 < ds.length ∧ ds.head? = some '0') then none else readNumber 10 256 cs

/-- Reads four octets with dots between them. -/
def readOctets : Read (List Nat) := fun cs => do
  let (a, cs) ← readOctet cs
  let (_, cs) ← readMark '.' cs
  let (b, cs) ← readOctet cs
  let (_, cs) ← readMark '.' cs
  let (c, cs) ← readOctet cs
  let (_, cs) ← readMark '.' cs
  let (d, cs) ← readOctet cs
  return ([a, b, c, d], cs)

/-- Reads a group: at most four digits. -/
def readGroup : Read Nat := fun cs =>
  if 4 < (cs.takeWhile fun c => (digit? 16 c).isSome).length then none
  else readNumber 16 65536 cs

/-- Reads something behind a colon, unless it comes first. -/
def behindColon {α : Type} (first : Bool) (read : Read α) : Read α := fun cs =>
  if first then read cs else readMark ':' cs >>= fun (_, cs) => read cs

/-- Reads groups while there are any, at most as many as `room` says. Four
    octets may take the place of the last two. Says whether they did. -/
def readGroups : (room : Nat) → (done : List Nat) → List Char → (List Nat × Bool) × List Char
  | 0, done, cs => ((done, false), cs)
  | room + 1, done, cs =>
    let first := done.isEmpty
    let octets := if room = 0 then none else behindColon first readOctets cs
    match octets with
    | some ([a, b, c, d], rest) => ((done ++ [a * 256 + b, c * 256 + d], true), rest)
    | _ =>
      match behindColon first readGroup cs with
      | some (group, rest) => readGroups room (done ++ [group]) rest
      | none => ((done, false), cs)

/-- Eight groups, with zeros between a front and a back. -/
def expand (front back : List Nat) : List Nat :=
  front ++ List.replicate (8 - front.length - back.length) 0 ++ back

/-- Reads eight groups, some of which may be abbreviated. -/
def readAddress : Read (List Nat) := fun cs =>
  let ((front, dotted), cs) := readGroups 8 [] cs
  if front.length = 8 then some (front, cs)
  else if dotted then none
  else do
    let (_, cs) ← readMark ':' cs
    let (_, cs) ← readMark ':' cs
    let ((back, _), cs) := readGroups (7 - front.length) [] cs
    return (expand front back, cs)

/-- Reads a port. -/
def readPort : Read Nat := fun cs => do
  let (_, cs) ← readMark ':' cs
  readNumber 10 65536 cs

/-- Reads an address of four octets with its port. -/
def readFour : Read Socket := fun cs => do
  let (octets, cs) ← readOctets cs
  let (port, cs) ← readPort cs
  return (.four octets port, cs)

/-- Reads an address of eight groups with its port. -/
def readSix : Read Socket := fun cs => do
  let (_, cs) ← readMark '[' cs
  let (groups, cs) ← readAddress cs
  let (scope, cs) ←
    match cs with
    | '%' :: rest => readNumber 10 4294967296 rest
    | cs => some (0, cs)
  let (_, cs) ← readMark ']' cs
  let (port, cs) ← readPort cs
  return (.six groups scope port, cs)

/-- Reads an address. -/
def read? (s : String) : Option Socket :=
  match readFour s.toList <|> readSix s.toList with
  | some (socket, []) => some socket
  | _ => none

/-- The wording of the refusal of an address. -/
def refusalMessage : String := "invalid socket address syntax"

/-- The longest row of zero groups: where it starts and how long it is. Of two
    rows the first counts. -/
def zeroRow (groups : List Nat) : Nat × Nat :=
  let runs := (List.range groups.length).map fun i =>
    (i, ((groups.drop i).takeWhile (· = 0)).length)
  runs.foldl (fun best run => if best.2 < run.2 then run else best) (0, 0)

/-- Groups in hexadecimal with colons between them. -/
def joined (groups : List Nat) : String :=
  ":".intercalate (groups.map fun g => String.ofList (Nat.toDigits 16 g))

/-- Octets with dots between them. -/
def dotted (octets : List Nat) : String :=
  ".".intercalate (octets.map toString)

/-- The written form of eight groups. -/
def addressText (groups : List Nat) : String :=
  match groups with
  | [0, 0, 0, 0, 0, 65535, a, b] => "::ffff:" ++ dotted [a / 256, a % 256, b / 256, b % 256]
  | groups =>
    let (start, length) := zeroRow groups
    if 1 < length then joined (groups.take start) ++ "::" ++ joined (groups.drop (start + length))
    else joined groups

/-- The written form of an address. -/
def text : Socket → String
  | .four octets port => dotted octets ++ ":" ++ toString port
  | .six groups scope port =>
    "[" ++ addressText groups ++ (if scope = 0 then "" else "%" ++ toString scope) ++ "]:" ++
      toString port

end Socket
end Rulebook

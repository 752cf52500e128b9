import Rulebook.Database.Address.NameTable
import Rulebook.Database.Address.ScriptTable
import Rulebook.Text.Octets

/-!
# Names of Hosts

A name in the net is looked up in ASCII. Characters outside ASCII are reduced
first: to small letters, to their plain shape, to nothing, or not at all where
no name may hold them. What is left of them is encoded, and a label that comes
encoded has to be the code of something. Scripts that run from right to left
must not be mixed with others inside a label, and a joiner has to stand where it
makes a difference.

## Main definitions

* `reduce?`: What is left of a character of a name.
* `decodeLabel?`: The characters that an encoded label stands for.
* `joinersFit`: Whether the joiners of a label make a difference.
* `runsCleanly`: Whether a label keeps to one direction.
* `readName?`: What is left of a name, if it is one.
-/

namespace Rulebook
namespace Database
namespace Address

open Text (Octets Table isIn)

/-- The characters of ASCII that no name holds, apart from controls. -/
def refusedInName : List Char :=
  [' ', '%', '#', '/', ':', '<', '>', '?', '@', '[', '\\', ']', '^', '|', '\x7f']

/-- The character of ASCII that a character is another shape of. -/
def plainShape? (c : Char) : Option Char :=
  (shapeRanges.find? fun (first, last, _) => first ≤ c.toNat && c.toNat ≤ last).map
    fun (first, _, plain) => Char.ofNat (plain + (c.toNat - first))

/-- The number in a ring, of two digits, that a character shows. -/
def ringed? (c : Char) : Option Nat :=
  let n := c.toNat
  if 0x2469 ≤ n ∧ n ≤ 0x2473 then some (n - 0x2469 + 10)
  else if 0x3251 ≤ n ∧ n ≤ 0x325F then some (n - 0x3251 + 21)
  else if 0x32B1 ≤ n ∧ n ≤ 0x32BF then some (n - 0x32B1 + 36)
  else none

/-- What a few characters are spelled out as, that begin with a mark while they
    are none, or are a mark while they begin with none. -/
def spelledOut? (c : Char) : Option (List Char) :=
  (([(0x345, [0x3B9]), (0xE33, [0xE4D, 0xE32]), (0xEB3, [0xECD, 0xEB2]), (0xFF9E, [0x3099]),
    (0xFF9F, [0x309A])] : List (Nat × List Nat)).lookup c.toNat).map (·.map Char.ofNat)

/-- Whether a character is another shape of some character. -/
def isChanged (c : Char) : Bool :=
  changedRows.any fun (first, last, distance) =>
    first ≤ c.toNat && c.toNat ≤ last && (c.toNat - first) % distance = 0

/-- What is left of a character of a name; nothing if no name holds it. A shape
    of a character outside ASCII may stay as it is. -/
def reduce? (c : Char) : Option (List Char) :=
  if c.toNat < 128 then
    if c.toNat < 0x20 ∨ refusedInName.contains c then none else some [c.toLower]
  else if isIn refusedRanges c then none
  else if isIn droppedRanges c then some []
  else
    match plainShape? c, ringed? c with
    | some plain, _ => some [plain]
    | none, some n => some (Nat.toDigits 10 n)
    | none, none => some ((spelledOut? c).getD [c])

/-! ## Encoded labels -/

/-- The value of a digit of the code: letters, then numerals. -/
def codeDigit? (c : Char) : Option Nat :=
  if 'a' ≤ c ∧ c ≤ 'z' then some (c.toNat - 97)
  else if c.isDigit then some (c.toNat - 22)
  else none

/-- Divides a step until it is small, and counts how often. -/
def shrink : (rounds delta count : Nat) → Nat × Nat
  | 0, delta, count => (delta, count)
  | rounds + 1, delta, count =>
    if 455 < delta then shrink rounds (delta / 35) (count + 36) else (delta, count)

/-- The bias behind a step of so much, with so many characters decoded. -/
def adapt (delta length : Nat) (isFirst : Bool) : Nat :=
  let delta := if isFirst then delta / 700 else delta / 2
  let (delta, count) := shrink delta (delta + delta / length) 0
  count + 36 * delta / (delta + 38)

/-- A label in decoding. -/
structure Decoding where
  done : List Char
  /-- The character to be put in next. -/
  char : Nat := 128
  /-- Where it is to be put, as far as that has been read. -/
  place : Nat := 0
  /-- Where the last one was put. -/
  lastPlace : Nat := 0
  bias : Nat := 72
  /-- What the next digit counts, and how far it stands from the first. -/
  weight : Nat := 1
  distance : Nat := 36

/-- Takes note of a digit. The last digit of a number puts a character in. -/
def Decoding.step (d : Decoding) (digit : Nat) : Option Decoding :=
  let place := d.place + digit * d.weight
  let bound := if d.distance ≤ d.bias then 1 else min 26 (d.distance - d.bias)
  if bound ≤ digit then
    some { d with place, weight := d.weight * (36 - bound), distance := d.distance + 36 }
  else
    let length := d.done.length + 1
    let char := d.char + place / length
    let index := place % length
    if ¬ char.isValidChar then none
    else
      some
        { done := d.done.take index ++ Char.ofNat char :: d.done.drop index
          char
          place := index + 1
          lastPlace := index + 1
          bias := adapt (place - d.lastPlace) length (d.lastPlace = 0) }

/-- Reads the digits of an encoded label. -/
def decodeDigits (d : Decoding) : List Char → Option (List Char)
  | [] => if d.distance = 36 then some d.done else none
  | c :: rest => do decodeDigits (← d.step (← codeDigit? c)) rest

/-- The characters that an encoded label stands for, apart from its mark. The
    characters of ASCII come first, with a dash behind them. -/
def decodeLabel? (cs : List Char) : Option (List Char) :=
  let digits := (cs.reverse.takeWhile (· ≠ '-')).reverse
  let plain := cs.take (cs.length - digits.length - 1)
  if plain.isEmpty then decodeDigits { done := [] } cs else decodeDigits { done := plain } digits

/-! ## Labels -/

/-- The labels of a name, between its dots. -/
def labels : List Char → List (List Char)
  | [] => [[]]
  | c :: rest =>
    if c = '.' then [] :: labels rest
    else
      match labels rest with
      | first :: others => (c :: first) :: others
      | [] => [[c]]

/-- The character that parts two letters which would join. -/
def parter : Char := Char.ofNat 0x200C

/-- The character that joins two letters. -/
def joiner : Char := Char.ofNat 0x200D

/-- Whether the letter behind some marks joins. -/
def joins (table : Table) (cs : List Char) : Bool :=
  (cs.dropWhile (isIn markRanges)).head?.any (isIn table)

/-- Whether the joiners of a label make a difference: behind a mark that takes
    the vowel from a letter, or where letters that would join are parted.
    `before` is what has been read, the last character first. -/
def joinersFit : (before : List Char) → List Char → Bool
  | _, [] => true
  | before, c :: rest =>
    let isBehindKiller : Bool := before.head?.any (isIn killerRanges)
    let parts : Bool := joins joinsNextRanges before && joins joinsLastRanges rest
    let fits : Bool :=
      if c = joiner then isBehindKiller
      else if c = parter then isBehindKiller || parts
      else true
    fits && joinersFit (c :: before) rest

/-- The mark that encoded labels start with. -/
def codeMark : List Char := ['x', 'n', '-', '-']

/-- What a label stands for, if it may stand in a name. Marks belong to a
    character before them, and only what needs it is encoded. -/
def readLabel? (label : List Char) : Option (List Char) := do
  let read ←
    if codeMark.isPrefixOf label then
      let read ← decodeLabel? (label.drop 4)
      let isStable (c : Char) : Bool := reduce? c = some [c] && !isChanged c
      if read.any (128 ≤ ·.toNat) ∧ read.all isStable then some read else none
    else some label
  if read.head?.any (isIn markRanges) ∨ ¬ joinersFit [] read then none else some read

/-- The direction of a character. -/
inductive Direction where
  | leftward
  | leftwardDigit
  | rightward
  | digit
  | neutral
  | mark
  deriving DecidableEq, Repr

/-- The direction of a character. -/
def Direction.of (c : Char) : Direction :=
  if c.toNat < 128 then
    if c.isAlpha then .rightward else if c.isDigit then .digit else .neutral
  else if isIn leftwardDigitRanges c then .leftwardDigit
  else if isIn markRanges c then .mark
  else if isIn leftwardRanges c then .leftward
  else if 0x6F0 ≤ c.toNat ∧ c.toNat ≤ 0x6F9 ∨ 0x102E1 ≤ c.toNat ∧ c.toNat ≤ 0x102FB then .digit
  else if isIn neutralRanges c then .neutral
  else .rightward

/-- Whether a label keeps to the direction of its first character. -/
def runsCleanly (label : List Char) : Bool :=
  let directions := label.map Direction.of
  let last := (directions.reverse.dropWhile (· = .mark)).head?
  match directions with
  | [] => true
  | .leftward :: _ =>
    !directions.contains .rightward &&
      (last = some .leftward || last = some .leftwardDigit || last = some .digit) &&
      !(directions.contains .digit && directions.contains .leftwardDigit)
  | .rightward :: _ =>
    !directions.contains .leftward && !directions.contains .leftwardDigit &&
      (last = some .rightward || last = some .digit)
  | _ => false

/-- Whether a label holds characters of a script that runs from right to left. -/
def runsLeftward (label : List Char) : Bool :=
  label.any fun c => Direction.of c = .leftward || Direction.of c = .leftwardDigit

/-- What is left of a name, if it is one. -/
def readName? (bs : Octets) : Option (List Char) := do
  let reduced ← (← Text.ofOctets? bs).toList.mapM reduce?
  let name := reduced.flatten
  let read ← (labels name).mapM readLabel?
  if read.any runsLeftward ∧ ¬ read.all runsCleanly then none else some name

end Address
end Database
end Rulebook

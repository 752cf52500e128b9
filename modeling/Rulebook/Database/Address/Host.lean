import Rulebook.Database.Address.Fault
import Rulebook.Database.Address.Name
import Rulebook.Http.Percent
import Rulebook.Socket

/-!
# Hosts of Addresses

Where a database runs: a name, an address of four octets, or one of eight groups
in brackets. What counts as a name depends on the scheme: in the net it is a
name that can be looked up, and elsewhere almost any text. In the net, what ends
in a number is an address of four octets, which may be written in fewer numbers
and in three bases.

## Main definitions

* `fourNumber?`: A number of an address of four octets.
* `checkFour`, `checkSix`: Checks for addresses.
* `checkOpaque`, `checkNet`: Checks for hosts.
-/

namespace Rulebook
namespace Database
namespace Address

open Text (octets)

/-- The number that digits of a base make up, if all of them are such digits. -/
def numberIn (base : Nat) (cs : List Char) : Option Nat :=
  if cs.all fun c => (Socket.digit? base c).isSome then some (Socket.valueOf base cs) else none

/-- A number of an address: hexadecimal behind a zero and an x, octal behind a
    zero alone, and decimal otherwise. -/
def fourNumber? : List Char → Option Nat
  | [] => none
  | '0' :: 'x' :: digits => numberIn 16 digits
  | '0' :: digit :: digits => numberIn 8 (digit :: digits)
  | digits => numberIn 10 digits

/-- The numbers of a name, between its dots, of which a last one ends the name. -/
def withoutLastDot (parts : List (List Char)) : List (List Char) :=
  if parts.getLast? = some [] then parts.dropLast else parts

/-- Whether a name ends in a number, so that it has to be four octets. -/
def endsInNumber (name : List Char) : Bool :=
  match (withoutLastDot (labels name)).getLast? with
  | none | some [] => false
  | some last => last.all Char.isDigit || (fourNumber? last).isSome

/-- Checks an address of four octets. The last number fills what the others
    leave. -/
def checkFour (name : List Char) : Except AddressFault Unit :=
  let parts := withoutLastDot (labels name)
  match parts.mapM fourNumber? with
  | none => .error .badFour
  | some numbers =>
    let bound := 1 <<< (8 * (5 - numbers.length))
    if numbers.length ≤ 4 ∧ numbers.dropLast.all (· < 256) ∧ numbers.getLast?.any (· < bound) then
      .ok ()
    else .error .badFour

/-- Checks an address of eight groups, from its opening bracket on. -/
def checkSix (cs : List Char) : Except AddressFault Unit :=
  match cs.getLast?, Socket.readAddress (cs.drop 1).dropLast with
  | some ']', some (_, []) => .ok ()
  | _, _ => .error .badSix

/-- The characters that no host holds. -/
def forbidden : List Char :=
  ['\x00', '\t', '\n', '\r', ' ', '#', '/', ':', '<', '>', '?', '@', '[', '\\', ']', '^', '|']

/-- Checks a host outside the net. -/
def checkOpaque (cs : List Char) : Except AddressFault Unit :=
  if cs.head? = some '[' then checkSix cs
  else if cs.any (· ∈ forbidden) then .error .badHostCharacter
  else .ok ()

/-- Checks a host in the net, and returns what is left of it. -/
def checkNet (cs : List Char) : Except AddressFault (List Char) :=
  if cs.head? = some '[' then do
    checkSix cs
    .ok cs
  else
    match readName? (Http.percentDecode (octets (String.ofList cs))) with
    | none => .error .badName
    | some [] => .error .emptyHost
    | some name =>
      if endsInNumber name then do
        checkFour name
        .ok name
      else .ok name

end Address
end Database
end Rulebook

import Rulebook.Instant.Reader
import Rulebook.Json.Fault
import Rulebook.Json
import Rulebook.Record.Shape

/-!
# Records as Values

Takes a record from a JSON value that has been read already. There are no places
in a value, so a refusal is a bare cause. Members are looked at in the order of
their names, and the first that holds something wrong decides.

## Main definitions

* `entryOf`: The entry of a kind that a value holds.
* `ofJson`: The record that a value holds.
-/

namespace Rulebook
namespace Record

open Json (Cause Found)

/-- The kind of a value, as a refusal names it. -/
def foundIn : Json → Found
  | .null => .null
  | .bool b => .bool b
  | .int n => .int n
  | .fraction x => .fraction x
  | .text s => .text s
  | .list _ => .list
  | .object _ => .object

/-- The refusal of a value of the wrong kind. -/
def misplaced {α : Type} (v : Json) (wanted : String) : Except Cause α :=
  .error (.misplaced (foundIn v) wanted)

/-- The entry of a kind that a value holds. -/
def entryOf : (kind : Kind) → Json → Except Cause kind.Entry
  | .text, .text s => .ok s
  | .textOrNull, .text s => .ok (some s)
  | .textOrNull, .null => .ok none
  | .flag, .bool b => .ok b
  | .time, .text s =>
    match Instant.read s with
    | .ok time => .ok time
    | .error fault => .error (.meaningless fault.message)
  | kind, v => misplaced v kind.wanted

/-- Gathers the members of an object, in the given order. -/
def gatherMembers {α : Type} (shape : Shape α) :
    Gathered → List (String × Json) → Except Cause Gathered
  | g, [] => .ok g
  | g, (name, v) :: rest =>
    match shape.column? name with
    | none => gatherMembers shape g rest
    | some key => do
      let entry ← entryOf key.kind v
      gatherMembers shape (g.put key entry) rest

/-- Gathers the items of a list, column by column; what is left of the list is
    returned too. -/
def gatherItems {α : Type} (shape : Shape α) :
    (index : Nat) → List Key → Gathered → List Json → Except Cause (Gathered × List Json)
  | _, [], g, items => .ok (g, items)
  | index, key :: keys, g, [] =>
    if shape.mayLack key then gatherItems shape (index + 1) keys g []
    else .error (.wrongLength index shape.wantedLength)
  | index, key :: keys, g, v :: items => do
    let entry ← entryOf key.kind v
    gatherItems shape (index + 1) keys (g.put key entry) items

/-- Builds the value of a record from its entries. -/
def built {α : Type} (shape : Shape α) (g : Gathered) : Except Cause α :=
  match shape.build g with
  | .ok value => .ok value
  | .error key => .error (.missing key.written)

/-- The record that a value holds. -/
def ofJson {α : Type} (shape : Shape α) : Json → Except Cause α
  | .object members => do
    let sorted := members.mergeSort fun a b => a.1 ≤ b.1
    let g ← gatherMembers shape .empty sorted
    built shape g
  | .list items => do
    let (g, unread) ← gatherItems shape 0 shape.columns .empty items
    let value ← built shape g
    if unread.isEmpty then .ok value
    else .error (.wrongLength items.length "fewer elements in array")
  | v => misplaced v shape.title

end Record
end Rulebook

import Rulebook.Instant.Reader
import Rulebook.Json.Scalar
import Rulebook.Json.Skip
import Rulebook.Record.Shape

/-!
# Reading Records

Reads a record from octets: an object with its members in any order, or a list
of its entries in the order of the columns. Members with unknown names are
passed over.

Some refusals have a place of their own; others (a member that is missing, or
is there twice, or a list that is too short) are about the record as a whole.
These are placed where the reader stands after it has tried to leave the
record, so its closing bracket counts as read if it comes next.

## Main definitions

* `readEntry`: Reads an entry of a kind.
* `nextMember`, `nextItem`: What stands between members and between items.
* `readMembers`, `readItems`: The entries of an object and of a list.
* `readRecord`: Reads a record.
* `parseRecord`: Reads a text that is one record.
-/

namespace Rulebook
namespace Record

open Json (Cause Fault Read faultAt faultOver skipBlanks)
open Text (Octets)

/-- Reads an entry of a kind. -/
def readEntry : (kind : Kind) → Read kind.Entry
  | .text => Json.wantText Kind.text.wanted
  | .textOrNull => Json.wantTextOrNull Kind.textOrNull.wanted
  | .flag => Json.wantBool Kind.flag.wanted
  | .time => fun bs => do
    let (s, rest) ← Json.wantText Kind.time.wanted bs
    match Instant.read s with
    | .ok time => .ok (time, rest)
    | .error fault => faultAt (.meaningless fault.message) rest

/-- Names the member inside whose value a fault arose. -/
def within {α : Type} (member : String) : Except Fault α → Except Fault α
  | .error fault => .error { fault with member := some member }
  | .ok a => .ok a

/-- Why the entries of a record could not be read. -/
inductive Stop where
  /-- A fault with its own place. -/
  | placed (fault : Fault)
  /-- A cause that is about the record as a whole, and what is left to read. -/
  | unplaced (cause : Cause) (rest : Octets)

/-- A fault with its own place stops a record where it stands. -/
def placed {α : Type} : Except Fault α → Except Stop α
  | .error fault => .error (.placed fault)
  | .ok a => .ok a

/-- Finds the name of the next member, behind its opening quote; nothing where
    the object closes. -/
def nextMember (first : Bool) (bs : Octets) : Except Fault (Option Octets) :=
  match skipBlanks bs with
  | [] => faultAt .endInObject []
  | 0x7D :: _ => .ok none
  | b :: rest =>
    if first then
      if b = 0x22 then .ok (some rest) else faultOver .nameNotText (b :: rest)
    else if b = 0x2C then
      match skipBlanks rest with
      | [] => faultAt .endInValue []
      | 0x22 :: rest => .ok (some rest)
      | 0x7D :: rest => faultOver .trailingComma (0x7D :: rest)
      | rest => faultOver .nameNotText rest
    else faultOver .expectedCommaOrBrace (b :: rest)

/-- Finds the next item; nothing where the list closes. -/
def nextItem (first : Bool) (bs : Octets) : Except Fault (Option Octets) :=
  match skipBlanks bs with
  | [] => faultAt .endInList []
  | 0x5D :: _ => .ok none
  | b :: rest =>
    if first then .ok (some (b :: rest))
    else if b = 0x2C then
      match skipBlanks rest with
      | [] => faultAt .endInValue []
      | 0x5D :: rest => faultOver .trailingComma (0x5D :: rest)
      | rest => .ok (some rest)
    else faultOver .expectedCommaOrBracket (b :: rest)

/-- Passes over the colon behind a name. -/
def readColon (bs : Octets) : Except Fault Octets :=
  match skipBlanks bs with
  | [] => faultAt .endInObject []
  | 0x3A :: rest => .ok rest
  | rest => faultOver .expectedColon rest

/-- Gathers the members of an object. Every round reads a member. -/
def readMembers {α : Type} (shape : Shape α) :
    (rounds : Nat) → (first : Bool) → Gathered → Octets → Except Stop (Gathered × Octets)
  | 0, _, _, bs => .error (.unplaced .endInObject bs)
  | rounds + 1, first, g, bs => do
    match ← placed (nextMember first bs) with
    | none => .ok (g, bs)
    | some bs =>
      let (name, bs) ← placed (Json.readText bs)
      match shape.column? name with
      | none =>
        let bs ← placed (readColon bs)
        let bs ← placed (within name (Json.skipValue bs))
        readMembers shape rounds false g bs
      | some key =>
        if (g key).isSome then .error (.unplaced (.repeated name) bs)
        else
          let bs ← placed (readColon bs)
          let (entry, bs) ← placed (within name (readEntry key.kind bs))
          readMembers shape rounds false (g.put key entry) bs

/-- Gathers the items of a list, column by column. -/
def readItems {α : Type} (shape : Shape α) :
    (index : Nat) → List Key → Gathered → Octets → Except Stop (Gathered × Octets)
  | _, [], g, bs => .ok (g, bs)
  | index, key :: keys, g, bs => do
    match ← placed (nextItem (index = 0) bs) with
    | none =>
      if shape.mayLack key then readItems shape (index + 1) keys g bs
      else .error (.unplaced (.wrongLength index shape.wantedLength) bs)
    | some bs =>
      let name := "[" ++ toString index ++ "]"
      let (entry, bs) ← placed (within name (readEntry key.kind bs))
      readItems shape (index + 1) keys (g.put key entry) bs

/-- Builds the value of a record from its entries. -/
def finish {α : Type} (shape : Shape α) : Gathered × Octets → Except Stop (α × Octets)
  | (g, bs) =>
    match shape.build g with
    | .ok value => .ok (value, bs)
    | .error key => .error (.unplaced (.missing key.written) bs)

/-- Passes over the closing brace of an object. -/
def closeObject (bs : Octets) : Except Fault Octets :=
  match skipBlanks bs with
  | [] => faultAt .endInObject []
  | 0x7D :: rest => .ok rest
  | 0x2C :: rest => faultOver .trailingComma (0x2C :: rest)
  | rest => faultOver .trailingText rest

/-- Passes over the closing bracket of a list. -/
def closeList (bs : Octets) : Except Fault Octets :=
  match skipBlanks bs with
  | [] => faultAt .endInList []
  | 0x5D :: rest => .ok rest
  | 0x2C :: rest =>
    match skipBlanks rest with
    | 0x5D :: rest => faultOver .trailingComma (0x5D :: rest)
    | rest => faultOver .trailingText rest
  | rest => faultOver .trailingText rest

/-- What is left to read after trying to leave an object. -/
def leaveObject (bs : Octets) : Octets :=
  match skipBlanks bs with
  | 0x7D :: rest => rest
  | rest => rest

/-- What is left to read after trying to leave a list. -/
def leaveList (bs : Octets) : Octets :=
  match skipBlanks bs with
  | 0x5D :: rest => rest
  | 0x2C :: rest => skipBlanks rest
  | rest => rest

/-- Leaves a record. The cause that stopped it is placed where that leads. -/
def leaving {α : Type} (close : Octets → Except Fault Octets) (leave : Octets → Octets) :
    Except Stop (α × Octets) → Except Fault (α × Octets)
  | .error (.placed fault) => .error fault
  | .error (.unplaced cause bs) => faultAt cause (leave bs)
  | .ok (value, bs) => (close bs).map fun bs => (value, bs)

/-- Reads a record. -/
def readRecord {α : Type} (shape : Shape α) : Read α := fun bs =>
  match skipBlanks bs with
  | 0x5B :: bs =>
    leaving closeList leaveList (readItems shape 0 shape.columns .empty bs >>= finish shape)
  | 0x7B :: bs =>
    leaving closeObject leaveObject
      (readMembers shape (bs.length + 1) true .empty bs >>= finish shape)
  | bs => Json.refuse shape.title bs

/-- Reads a text that is one record, blanks at its ends aside. -/
def parseRecord {α : Type} (shape : Shape α) (bs : Octets) : Except Fault α := do
  let (value, rest) ← readRecord shape bs
  match skipBlanks rest with
  | [] => .ok value
  | rest => faultOver .trailingText rest

end Record
end Rulebook

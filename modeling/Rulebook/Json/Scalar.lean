import Rulebook.Json.Blank
import Rulebook.Json.Text
import Rulebook.Json.Number

/-!
# Wanted Values

The values that a member of a record may have are texts and truth values. A
value of another kind is refused by its name, and it is read first, as far as it
is no list and no object: a broken text is refused as broken, not as misplaced.

## Main definitions

* `refuse`: Refuses whatever value stands here.
* `wantText`: Reads a text.
* `wantTextOrNull`: Reads a text, or the word that stands for none.
* `wantBool`: Reads a truth value.

## Theorems

* `wantText_quote`: A quote starts a text.
-/

namespace Rulebook
namespace Json

open Text (Octets)

/-- Refuses the value that stands in front of a text without blanks before it. -/
def refuse {α : Type} (wanted : String) : Octets → Except Fault α
  | [] => faultAt .endInValue []
  | b :: rest =>
    let misplaced (found : Found) (rest : Octets) : Except Fault α :=
      faultAt (.misplaced found wanted) rest
    if b = 0x6E then readWord restOfNull rest >>= misplaced .null
    else if b = 0x74 then readWord restOfTrue rest >>= misplaced (.bool true)
    else if b = 0x66 then readWord restOfFalse rest >>= misplaced (.bool false)
    else if b = 0x2D ∨ isDigit b then do
      let (found, rest) ← readNumber (b :: rest)
      misplaced found rest
    else if b = 0x22 then do
      let (s, rest) ← readText rest
      misplaced (.text s) rest
    else if b = 0x5B then misplaced .list (b :: rest)
    else if b = 0x7B then misplaced .object (b :: rest)
    else faultOver .expectedValue (b :: rest)

/-- Reads a text, blanks in front of it. -/
def wantText (wanted : String) : Read String := fun bs =>
  match skipBlanks bs with
  | 0x22 :: rest => readText rest
  | bs => refuse wanted bs

/-- Reads a text or `null`, blanks in front of it. -/
def wantTextOrNull (wanted : String) : Read (Option String) := fun bs =>
  match skipBlanks bs with
  | 0x6E :: rest => (readWord restOfNull rest).map fun rest => (none, rest)
  | bs => (wantText wanted bs).map fun (s, rest) => (some s, rest)

/-- Reads a truth value, blanks in front of it. -/
def wantBool (wanted : String) : Read Bool := fun bs =>
  match skipBlanks bs with
  | 0x74 :: rest => (readWord restOfTrue rest).map fun rest => (true, rest)
  | 0x66 :: rest => (readWord restOfFalse rest).map fun rest => (false, rest)
  | bs => refuse wanted bs

/-- A quote starts a text. -/
@[simp] theorem wantText_quote (wanted : String) (rest : Octets) :
    wantText wanted (0x22 :: rest) = readText rest := by
  simp [wantText, skipBlanks, isBlank]

end Json
end Rulebook

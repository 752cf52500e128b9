import Rulebook.Text.Unseen

/-!
# Cutting Texts

Places in a text are counted in octets, so that not every number is the place of
a character: a cut may go through one. Then there is no text to go on with, and
the cut says where it went wrong.

## Main definitions

* `Torn`: A cut that goes through a character, with `Torn.message`.
* `cutAt`: Cuts a text in two.
* `slice`: The part of a text between two places.
-/

namespace Rulebook
namespace Text

/-- The ends of a part of a text. -/
inductive Side where
  | start
  | stop
  deriving DecidableEq, Repr

/-- A cut that goes through a character. -/
structure Torn where
  side : Side
  /-- Where the cut was to be. -/
  index : Nat
  char : Char
  /-- Where the character starts. -/
  first : Nat
  deriving DecidableEq, Repr

/-- How a character is shown by itself. Only characters of several octets are
    ever torn, and none of these has a short form. -/
def shownChar (c : Char) : String :=
  if isUnseen c then "\\u\x7b" ++ String.ofList (Nat.toDigits 16 c.toNat) ++ "\x7d"
  else String.singleton c

/-- The wording of a cut that goes through a character. -/
def Torn.message (torn : Torn) : String :=
  let side :=
    match torn.side with
    | .start => "start"
    | .stop => "end"
  side ++ " byte index " ++ toString torn.index ++
    " is not a char boundary; it is inside '" ++ shownChar torn.char ++ "' (bytes " ++
    toString torn.first ++ ".." ++ toString (torn.first + torn.char.utf8Size) ++ " of string)"

/-- Cuts a text at a place, counted from the front of a text of which some
    octets have been passed. -/
def cutAt (side : Side) (index passed : Nat) : List Char → Except Torn (List Char × List Char)
  | [] => .ok ([], [])
  | c :: rest =>
    if index ≤ passed then .ok ([], c :: rest)
    else if index < passed + c.utf8Size then .error ⟨side, index, c, passed⟩
    else do
      let (front, behind) ← cutAt side index (passed + c.utf8Size) rest
      .ok (c :: front, behind)

/-- The part of a text between two places. -/
def slice (start stop : Nat) (cs : List Char) : Except Torn (List Char) := do
  let (_, behind) ← cutAt .start start 0 cs
  let (part, _) ← cutAt .stop stop start behind
  .ok part

/-- The part of a text from a place on. -/
def sliceFrom (start : Nat) (cs : List Char) : Except Torn (List Char) := do
  let (_, behind) ← cutAt .start start 0 cs
  .ok behind

end Text
end Rulebook

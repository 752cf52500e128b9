import Rulebook.Decimal.Shortest

/-!
# JSON Values

The values that answers are made of, and their one compact text: no blanks, the
members of an object in the order in which they were put, and of all characters
only the quote, the backslash and the controls escaped.

## Main definitions

* `Json`: Values.
* `Json.escaped`: How a character appears inside a JSON text.
* `Json.chars`, `Json.compact`: The compact text of a value.
-/

namespace Rulebook

/-- A JSON value. Members keep their order. -/
inductive Json where
  | null
  | bool (b : Bool)
  | int (n : Int)
  | fraction (x : Float)
  | text (s : String)
  | list (items : List Json)
  | object (members : List (String × Json))
  deriving Inhabited

namespace Json

/-- The hexadecimal digit of a number below sixteen, in small letters. -/
def hexDigit (n : Nat) : Char :=
  Char.ofNat (if n < 10 then 48 + n else 87 + n)

/-- How a character appears inside a JSON text. -/
def escaped (c : Char) : List Char :=
  if c = '"' then ['\\', '"']
  else if c = '\\' then ['\\', '\\']
  else if c.toNat = 8 then ['\\', 'b']
  else if c.toNat = 9 then ['\\', 't']
  else if c.toNat = 10 then ['\\', 'n']
  else if c.toNat = 12 then ['\\', 'f']
  else if c.toNat = 13 then ['\\', 'r']
  else if c.toNat < 32 then
    ['\\', 'u', '0', '0', hexDigit (c.toNat / 16), hexDigit (c.toNat % 16)]
  else [c]

/-- A text between quotes. -/
def textChars (s : String) : List Char :=
  '"' :: s.toList.flatMap escaped ++ ['"']

/-- A whole number in decimal. -/
def intChars (n : Int) : List Char :=
  if n < 0 then '-' :: Nat.toDigits 10 n.natAbs else Nat.toDigits 10 n.natAbs

mutual

/-- The compact text of a value, as characters. -/
def chars : Json → List Char
  | .null => ['n', 'u', 'l', 'l']
  | .bool true => ['t', 'r', 'u', 'e']
  | .bool false => ['f', 'a', 'l', 's', 'e']
  | .int n => intChars n
  | .fraction x => (Decimal.floatText x).toList
  | .text s => textChars s
  | .list items => '[' :: itemChars items ++ [']']
  | .object members => '{' :: memberChars members ++ ['}']

/-- The items of a list, with commas between them. -/
def itemChars : List Json → List Char
  | [] => []
  | [v] => v.chars
  | v :: rest => v.chars ++ ',' :: itemChars rest

/-- The members of an object, with commas between them. -/
def memberChars : List (String × Json) → List Char
  | [] => []
  | [(name, v)] => textChars name ++ ':' :: v.chars
  | (name, v) :: rest => textChars name ++ ':' :: v.chars ++ ',' :: memberChars rest

end

/-- The compact text of a value. -/
def compact (v : Json) : String :=
  String.ofList v.chars

end Json
end Rulebook

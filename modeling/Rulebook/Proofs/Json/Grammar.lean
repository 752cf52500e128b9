import Rulebook.Json.Text
import Rulebook.Proofs.Text.Octets

/-!
# How Values Are Written

One and the same value can be written in many ways. Blanks may stand between any two
parts; a character may stand for itself, or be escaped by a letter, or by its number in
digits of either case; a number may have leading, trailing and superfluous parts; and
the members of an object may come in any order. A tree of this module is one way of
writing a value, with every such choice made: `octets` is the text that it comes to,
and every JSON text is the text of a tree.

What a tree says is far less. A text says its characters, if it has any: units that
belong together name one character, and a lone half of such a pair names none. Of
lists, objects and numbers only is kept that they are there, because no record has
a use for them.

## Main definitions

* `Gap`: Blanks between two parts.
* `Letter`, `Literal`: A character, and a text, as it is written.
* `Number`: A number as it is written.
* `Written`, `Items`, `Members`: A value, and what stands inside brackets.
* `Written.alone`: A value that is a whole text.
* `Items.values`, `Members.entries`: What stands inside brackets, one by one.
* `Literal.text?`: The text that a literal says.
* `Written.sense`: What a value says.
* `Members.fields?`, `Items.senses`: What the inside of brackets says.
-/

namespace Rulebook
namespace Json

open Text (Octets)

/-! ## Blanks -/

/-- A blank. -/
inductive Blank where
  | space
  | tab
  | lineFeed
  | carriageReturn

def Blank.octet : Blank → UInt8
  | space => 0x20
  | tab => 0x09
  | lineFeed => 0x0A
  | carriageReturn => 0x0D

/-- Blanks between two parts of a text, or at its ends. -/
abbrev Gap := List Blank

def Gap.octets (gap : Gap) : Octets :=
  gap.map Blank.octet

/-! ## Texts -/

/-- A hexadecimal digit, in a letter of either case where it takes one. -/
structure HexDigit where
  value : Fin 16
  capital : Bool

def HexDigit.octet (d : HexDigit) : UInt8 :=
  UInt8.ofNat (d.value + if d.value < 10 then 0x30 else if d.capital then 0x37 else 0x57)

/-- The last digit of a number. -/
def HexDigit.ofNat (n : Nat) : HexDigit :=
  ⟨⟨n % 16, Nat.mod_lt n (by decide)⟩, false⟩

/-- The escapes that consist of a backslash and one further sign. -/
inductive Short where
  | quote
  | backslash
  | slash
  | backspace
  | formFeed
  | lineFeed
  | carriageReturn
  | tab

namespace Short

/-- The sign behind the backslash. -/
def sign : Short → UInt8
  | quote => 0x22
  | backslash => 0x5C
  | slash => 0x2F
  | backspace => 0x62
  | formFeed => 0x66
  | lineFeed => 0x6E
  | carriageReturn => 0x72
  | tab => 0x74

/-- The character that an escape stands for. -/
def char : Short → Char
  | quote => '"'
  | backslash => '\\'
  | slash => '/'
  | backspace => Char.ofNat 8
  | formFeed => Char.ofNat 12
  | lineFeed => '\n'
  | carriageReturn => '\r'
  | tab => '\t'

end Short

/-- A part of a text as it is written. -/
inductive Letter where
  /-- A character that stands for itself. -/
  | plain (c : Char) (visible : 0x20 ≤ c.toNat ∧ c ≠ '"' ∧ c ≠ '\\')
  | short (escape : Short)
  /-- The number of a UTF-16 unit. -/
  | unit (a b c d : HexDigit)

def Letter.octets : Letter → Octets
  | plain c _ => String.utf8EncodeChar c
  | short escape => [0x5C, escape.sign]
  | unit a b c d => [0x5C, 0x75, a.octet, b.octet, c.octet, d.octet]

/-- The number of a unit. -/
def unitOf (a b c d : HexDigit) : Nat :=
  ((a.value * 16 + b.value) * 16 + c.value) * 16 + d.value

/-- A text as it is written, without its quotes. -/
abbrev Literal := List Letter

namespace Literal

def octets (s : Literal) : Octets :=
  s.flatMap Letter.octets

/-- The characters that a literal says. Half of a pair of units says none. -/
def chars? : Literal → Option (List Char)
  | [] => some []
  | .plain c _ :: rest => (chars? rest).map (c :: ·)
  | .short escape :: rest => (chars? rest).map (escape.char :: ·)
  | .unit a b c d :: rest =>
    let n := unitOf a b c d
    if isLowSurrogate n then none
    else if isHighSurrogate n then
      match rest with
      | .unit e f g h :: rest =>
        let m := unitOf e f g h
        if isLowSurrogate m then (chars? rest).map (Char.ofNat (joinSurrogates n m) :: ·)
        else none
      | _ => none
    else (chars? rest).map (Char.ofNat n :: ·)

/-- The text that a literal says. -/
def text? (s : Literal) : Option String :=
  s.chars?.map String.ofList

end Literal

/-! ## Numbers -/

/-- A decimal digit. -/
abbrev Digit := Fin 10

def Digit.octet (d : Digit) : UInt8 :=
  UInt8.ofNat (0x30 + d)

/-- A row of digits that is not empty. -/
structure Digits where
  first : Digit
  rest : List Digit

def Digits.octets (ds : Digits) : Octets :=
  (ds.first :: ds.rest).map Digit.octet

/-- The digits in front of the point. They start with a zero only if that is all. -/
inductive Whole where
  | zero
  | digits (ds : Digits) (positive : ds.first.val ≠ 0)

def Whole.octets : Whole → Octets
  | zero => [0x30]
  | digits ds _ => ds.octets

/-- A power of ten behind a number. -/
structure Exponent where
  capital : Bool
  /-- The sign, if there is one: whether it is a minus. -/
  sign : Option Bool
  digits : Digits

namespace Exponent

def signOctets : Option Bool → Octets
  | none => []
  | some false => [0x2B]
  | some true => [0x2D]

def octets (e : Exponent) : Octets :=
  (if e.capital then 0x45 else 0x65) :: signOctets e.sign ++ e.digits.octets

end Exponent

/-- A number as it is written. -/
structure Number where
  negative : Bool
  whole : Whole
  decimals : Option Digits
  exponent : Option Exponent

namespace Number

def decimalOctets : Option Digits → Octets
  | none => []
  | some ds => 0x2E :: ds.octets

def exponentOctets : Option Exponent → Octets
  | none => []
  | some e => e.octets

def octets (n : Number) : Octets :=
  (if n.negative then [0x2D] else []) ++
    (n.whole.octets ++ (decimalOctets n.decimals ++ exponentOctets n.exponent))

end Number

/-! ## Values -/

mutual

/-- A value as it is written. -/
inductive Written where
  | null
  | bool (b : Bool)
  | number (n : Number)
  | text (s : Literal)
  | list (items : Items)
  | object (members : Members)

/-- What stands behind the opening bracket of a list, up to the closing one. -/
inductive Items where
  | close (gap : Gap)
  /-- An item, with blanks in front of the comma before it, if there is one, and in
      front of itself. -/
  | item (gap before : Gap) (value : Written) (rest : Items)

/-- What stands behind the opening brace of an object, up to the closing one. -/
inductive Members where
  | close (gap : Gap)
  /-- A member, with blanks in front of the comma before it, if there is one, and
      around its name and its colon. -/
  | member (gap before : Gap) (name : Literal) (colon after : Gap) (value : Written)
      (rest : Members)

end

/-- The comma in front of everything inside brackets that is not the first. -/
def comma : (first : Bool) → Octets
  | true => []
  | false => [0x2C]

mutual

def Written.octets : Written → Octets
  | .null => [0x6E, 0x75, 0x6C, 0x6C]
  | .bool true => [0x74, 0x72, 0x75, 0x65]
  | .bool false => [0x66, 0x61, 0x6C, 0x73, 0x65]
  | .number n => n.octets
  | .text s => 0x22 :: (s.octets ++ [0x22])
  | .list items => 0x5B :: items.octets true
  | .object members => 0x7B :: members.octets true

def Items.octets : Items → (first : Bool) → Octets
  | .close gap, _ => gap.octets ++ [0x5D]
  | .item gap before value rest, first =>
    gap.octets ++ (comma first ++ (before.octets ++ (value.octets ++ rest.octets false)))

def Members.octets : Members → (first : Bool) → Octets
  | .close gap, _ => gap.octets ++ [0x7D]
  | .member gap before name colon after value rest, first =>
    gap.octets ++ (comma first ++ (before.octets ++ (0x22 :: (name.octets ++
      (0x22 :: (colon.octets ++ (0x3A :: (after.octets ++
        (value.octets ++ rest.octets false)))))))))

end

/-- A value that is a text of its own, with blanks at both of its ends. -/
def Written.alone (v : Written) (lead trail : Gap) : Octets :=
  lead.octets ++ (v.octets ++ trail.octets)

/-- The end of an object: its last blanks, and its closing brace. -/
def Members.closing : Members → Octets
  | .close gap => gap.octets ++ [0x7D]
  | .member _ _ _ _ _ _ rest => rest.closing

/-- How many members there are. -/
def Members.length : Members → Nat
  | .close _ => 0
  | .member _ _ _ _ _ _ rest => rest.length + 1

/-- The items of a list, in their order. -/
def Items.values : Items → List Written
  | .close _ => []
  | .item _ _ value rest => value :: rest.values

/-! ## What is said -/

/-- What a value says. -/
inductive Sense where
  | null
  | flag (b : Bool)
  | text (s : String)
  /-- A number, a list, an object, or a text with a lone half of a pair. -/
  | other
  deriving DecidableEq

/-- What a value says, in whatever way it is written. -/
def Written.sense : Written → Sense
  | .null => .null
  | .bool b => .flag b
  | .text s => (s.text?.map Sense.text).getD .other
  | .number _ | .list _ | .object _ => .other

/-- What the items of a list say, in their order. -/
def Items.senses : Items → List Sense
  | .close _ => []
  | .item _ _ value rest => value.sense :: rest.senses

/-- What the members of an object say under which names, in their order. An object of
    which a name is no text says nothing. -/
def Members.fields? : Members → Option (List (String × Sense))
  | .close _ => some []
  | .member _ _ name _ _ value rest => do
    let name ← name.text?
    let fields ← rest.fields?
    return (name, value.sense) :: fields

/-- The members of an object, in their order, each with what its name says, if that is a
    text. -/
def Members.entries : Members → List (Option String × Written)
  | .close _ => []
  | .member _ _ name _ _ value rest => (name.text?, value) :: rest.entries

end Json
end Rulebook

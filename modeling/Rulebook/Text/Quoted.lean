import Rulebook.Text.Unseen

/-!
# Quoted Text

How a refusal shows a text it did not expect: between double quotes, on one
line, with every unseen character spelled out, so that the reader of a log sees
exactly what was sent.

## Main definitions

* `quotedChar`: How one character appears inside the quotes.
* `quoted`: A text between quotes.
-/

namespace Rulebook
namespace Text

/-- How a character appears inside quotes. Quote and backslash are escaped, the
    four usual controls have their short forms, and any other unseen character
    is written as its number in hexadecimal between braces. -/
def quotedChar (c : Char) : List Char :=
  if c = Char.ofNat 0 then ['\\', '0']
  else if c = '\t' then ['\\', 't']
  else if c = '\r' then ['\\', 'r']
  else if c = '\n' then ['\\', 'n']
  else if c = '\\' then ['\\', '\\']
  else if c = '"' then ['\\', '"']
  else if isUnseen c then
    ['\\', 'u', '{'] ++ Nat.toDigits 16 c.toNat ++ ['}']
  else [c]

/-- A text between double quotes. -/
def quoted (s : String) : String :=
  String.ofList ('"' :: s.toList.flatMap quotedChar ++ ['"'])

end Text
end Rulebook

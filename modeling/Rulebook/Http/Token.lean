import Rulebook.Text.Octets

/-!
# Tokens and Header Values

The octets that the parts of a web request are made of: methods and names of
headers are tokens, values of headers are nearly anything on one line.

## Main definitions

* `isTokenOctet`, `isToken`: Tokens.
* `isValueOctet`, `isHeaderValue`: Values of headers.
* `isVisible`: Values that are read as ASCII text.
* `lowered`: Octets with ASCII letters made small.
-/

namespace Rulebook
namespace Http

open Text (Octets)

/-- Whether an octet is an ASCII letter. -/
def isLetter (b : UInt8) : Bool :=
  (0x41 ≤ b && b ≤ 0x5A) || (0x61 ≤ b && b ≤ 0x7A)

/-- Whether an octet is a decimal digit. -/
def isDigit (b : UInt8) : Bool :=
  0x30 ≤ b && b ≤ 0x39

/-- Whether an octet may stand in a token: letters, digits, and fifteen signs. -/
def isTokenOctet (b : UInt8) : Bool :=
  isLetter b || isDigit b || (Text.octets "!#$%&'*+-.^_`|~").contains b

/-- Whether a sequence is a token. -/
def isToken (bs : Octets) : Bool :=
  !bs.isEmpty && bs.all isTokenOctet

/-- Whether an octet may stand in the value of a header: no control but the tab. -/
def isValueOctet (b : UInt8) : Bool :=
  b = 0x09 || (0x20 ≤ b && b ≠ 0x7F)

/-- Whether a sequence may be the value of a header. -/
def isHeaderValue (bs : Octets) : Bool :=
  bs.all isValueOctet

/-- Whether a value can be read as a line of ASCII. -/
def isVisible (bs : Octets) : Bool :=
  bs.all fun b => b = 0x09 || (0x20 ≤ b && b < 0x7F)

/-- Octets with ASCII letters made small. -/
def lowered (bs : Octets) : Octets :=
  bs.map fun b => if 0x41 ≤ b && b ≤ 0x5A then b + 0x20 else b

end Http
end Rulebook

import Rulebook.Failure
import Rulebook.Text.Quoted

/-!
# Faults of Database Addresses

What can be wrong with the address of a database, and how that is told.

## Main definitions

* `AddressFault`: What is wrong, with `AddressFault.reason`.
* `AddressFault.failure`: A fault as the failure that a run ends with.
-/

namespace Rulebook
namespace Database

/-- What is wrong with an address. -/
inductive AddressFault where
  | relative
  | emptyHost
  | badPort
  | badHostCharacter
  | badName
  | badFour
  | badSix
  /-- An option does not fit, and why. -/
  | badOption (reason : String)
  /-- An option is none of the known words. -/
  | badSslMode (word : String)
  deriving DecidableEq, Repr

/-- The wording of a fault, apart from what it is about. -/
def AddressFault.reason : AddressFault → String
  | .relative => "relative URL without a base"
  | .emptyHost => "empty host"
  | .badPort => "invalid port number"
  | .badHostCharacter => "invalid domain character"
  | .badName => "invalid international domain name"
  | .badFour => "invalid IPv4 address"
  | .badSix => "invalid IPv6 address"
  | .badOption reason => reason
  | .badSslMode word => "unknown value " ++ Text.quoted word ++ " for `ssl_mode`"

/-- A failure to be configured, above the failure that it comes from. -/
def configured (cause : Failure) : Failure :=
  cause.under ("error with configuration: " ++ cause.text)

/-- A fault as a failure. An unknown word is a slip in an option, and the option
    is a slip in the address. -/
def AddressFault.failure (fault : AddressFault) : Failure :=
  let root : Failure := { text := fault.reason }
  match fault with
  | .badSslMode _ => configured (configured root)
  | _ => configured root

end Database
end Rulebook

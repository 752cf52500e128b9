import Rulebook.Text.Stray

/-!
# Reading Octets that Need Not Be Text

Where a text has to come out whatever goes in, every fault of a sequence of
octets becomes the sign for a character that is missing.

## Main definitions

* `missing`: The sign for a character that is missing.
* `lossy`: The text that a sequence of octets is read as.
-/

namespace Rulebook
namespace Text

/-- The sign for a character that is missing. -/
def missing : Char := '\ufffd'

/-- The characters that a sequence of octets is read as. Every round reads an
    octet at least. -/
def lossyChars : (rounds : Octets) → Octets → List Char
  | [], _ | _, [] => []
  | _ :: rounds, bs =>
    match leadingLength? bs with
    | some n => ((ofOctets? (bs.take n)).getD "").toList ++ lossyChars rounds (bs.drop n)
    | none =>
      match strayLength? bs with
      | some n => missing :: lossyChars rounds (bs.drop n)
      | none => [missing]

/-- The text that a sequence of octets is read as. -/
def lossy (bs : Octets) : String :=
  String.ofList (lossyChars bs bs)

end Text
end Rulebook

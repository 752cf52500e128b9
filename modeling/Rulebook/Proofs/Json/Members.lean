import Rulebook.Proofs.Json.Text

/-!
# Members as They Are Written

The printer of objects sets a comma between two members. A reader meets the commas one
member later: the first member has none, and every other one has a comma in front of it.
To read members one by one, an object is therefore cut behind a member, where what is
left starts with a comma or is the end.

## Main definitions

* `following`: The members that follow another one.
* `behindQuote`: A member from behind its opening quote on.

## Theorems

* `encoded_memberChars_cons`: An object is cut behind its first member.
* `encoded_following_cons`: What follows a member is cut behind the next one.
* `length_le_following`: Every member is written with an octet at least.
-/

namespace Rulebook
namespace Json

open Text (Octets encoded)

/-- The members that follow another one, with a comma in front of the first of them. -/
def following : List (String × Json) → List Char
  | [] => []
  | m :: rest => ',' :: memberChars (m :: rest)

/-- The octets of a member from behind its opening quote on. -/
def behindQuote (m : String × Json) (bs : Octets) : Octets :=
  encoded (m.1.toList.flatMap escaped) ++ 0x22 :: 0x3A :: (encoded m.2.chars ++ bs)

theorem memberChars_cons (m : String × Json) (rest : List (String × Json)) :
    memberChars (m :: rest) = textChars m.1 ++ ':' :: m.2.chars ++ following rest := by
  cases rest with
  | nil => simp only [memberChars, following, List.append_nil]
  | cons n rest => simp only [memberChars, following]

/-- An object is cut behind its first member. -/
theorem encoded_memberChars_cons (m : String × Json) (rest : List (String × Json)) (bs : Octets) :
    encoded (memberChars (m :: rest)) ++ bs =
      0x22 :: behindQuote m (encoded (following rest) ++ bs) := by
  have colon : String.utf8EncodeChar ':' = [0x3A] := rfl
  rw [memberChars_cons, Text.encoded_append, Text.encoded_append, List.append_assoc,
    List.append_assoc, encoded_textChars, Text.encoded_cons, colon, behindQuote,
    List.singleton_append, List.cons_append]

/-- What follows a member is cut behind the next one. -/
theorem encoded_following_cons (m : String × Json) (rest : List (String × Json)) (bs : Octets) :
    encoded (following (m :: rest)) ++ bs =
      0x2C :: 0x22 :: behindQuote m (encoded (following rest) ++ bs) := by
  rw [← encoded_memberChars_cons]
  rfl

/-- Every member is written with an octet at least. -/
theorem length_le_following (members : List (String × Json)) :
    members.length ≤ (encoded (following members)).length := by
  induction members with
  | nil => exact Nat.le_refl 0
  | cons m members ih =>
    have comma : String.utf8EncodeChar ',' = [0x2C] := rfl
    rw [following, memberChars_cons]
    simp only [Text.encoded_cons, Text.encoded_append, comma, List.length_cons,
      List.length_append, List.length_nil]
    omega

-- The octets of an object are those of its members between braces.
theorem encoded_object (members : List (String × Json)) (rest : Octets) :
    encoded (Json.object members).chars ++ rest =
      0x7B :: (encoded (memberChars members) ++ 0x7D :: rest) := by
  have brace : String.utf8EncodeChar '{' = [0x7B] := rfl
  have closing : String.utf8EncodeChar '}' = [0x7D] := rfl
  rw [chars, Text.encoded_append, Text.encoded_cons, Text.encoded_cons, Text.encoded_nil,
    brace, closing, List.append_assoc, List.append_nil, List.append_assoc,
    List.singleton_append, List.singleton_append]

end Json
end Rulebook

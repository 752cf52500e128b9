/-!
# Tables of Characters

Kinds of characters that no rule describes are given by tables: ranges of code
points, both ends included, in rising order.

## Main definitions

* `Table`: A table.
* `isIn`: Whether a character is in a table.
-/

namespace Rulebook
namespace Text

/-- A table: ranges of code points, both ends included, in rising order. -/
abbrev Table := Array (Nat × Nat)

/-- Whether a character is in a table. -/
def isIn (table : Table) (c : Char) : Bool :=
  table.any fun range => range.1 ≤ c.toNat && c.toNat ≤ range.2

end Text
end Rulebook

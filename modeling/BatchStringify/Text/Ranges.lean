/-!
# Ranges of code points

A class of characters is given by a table of ranges of code points, both ends included.
-/

namespace BatchStringify.Text

/-- A class of characters, as its ranges of code points in increasing order. -/
abbrev Ranges := List (Nat × Nat)

/-- Whether a character belongs to a class. -/
def Ranges.contains (ranges : Ranges) (c : Char) : Bool :=
  ranges.any fun (first, last) => decide (first ≤ c.toNat) && decide (c.toNat ≤ last)

end BatchStringify.Text

/-
Module: RouteAtlas.Text.Ranges
Layer: Text
Purpose: Membership of a character in a list of code point ranges, the form in which the property
  tables of this layer are written.
Trusted boundary: none
Main exports: inRanges
-/

namespace RouteAtlas.Text

/-- Whether the code point of `c` lies in one of the closed ranges. -/
def inRanges (ranges : List (Nat × Nat)) (c : Char) : Bool :=
  ranges.any fun range => range.1 ≤ c.toNat && c.toNat ≤ range.2

end RouteAtlas.Text

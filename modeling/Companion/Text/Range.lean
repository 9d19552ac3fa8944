/-!
# Ranges of code points

The classes of characters that names are made of are tables of ranges. The one question asked of a
table is whether a character lies in one of its ranges.
-/

namespace Companion.Text

/-- A first and a last code point, both inside. -/
abbrev CodeRange := Nat × Nat

def inRanges (ranges : List CodeRange) (c : Char) : Bool :=
  ranges.any fun range => range.1 ≤ c.toNat && c.toNat ≤ range.2

end Companion.Text

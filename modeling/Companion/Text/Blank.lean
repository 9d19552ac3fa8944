import Companion.Text.Range

/-!
# Blanks

The characters that only set others apart: the white space of Unicode.
-/

namespace Companion.Text

/-- White space: spaces of every width, tabs, and all that ends a line. -/
def blanks : List CodeRange :=
  [(0x9, 0xD), (0x20, 0x20), (0x85, 0x85), (0xA0, 0xA0), (0x1680, 0x1680), (0x2000, 0x200A),
    (0x2028, 0x2029), (0x202F, 0x202F), (0x205F, 0x205F), (0x3000, 0x3000)]

def isBlank (c : Char) : Bool := inRanges blanks c

end Companion.Text

/-
Blank code points: those with the Unicode property White_Space.

There are 25 of them. The six below `0x80` are the space and the five control
characters from tab to carriage return.
-/
import ModuleLinks.Text.Basic

set_option autoImplicit false

namespace ModuleLinks.CodePoint

/-- **The blank code points** as closed ranges. -/
def blankRanges : List (Nat × Nat) :=
  [(0x9, 0xD), (0x20, 0x20), (0x85, 0x85), (0xA0, 0xA0), (0x1680, 0x1680), (0x2000, 0x200A),
   (0x2028, 0x2029), (0x202F, 0x202F), (0x205F, 0x205F), (0x3000, 0x3000)]

/-- A code point that separates words in some script. -/
def isBlank (c : CodePoint) : Bool :=
  blankRanges.any fun range => range.1 ≤ c.val && c.val ≤ range.2

end ModuleLinks.CodePoint

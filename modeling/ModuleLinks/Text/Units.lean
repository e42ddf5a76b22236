/-
Code points beyond `0xFFFF` as pairs of UTF-16 units.

Such a code point has a high half and a low half, each a surrogate. Reading
units back, a high surrogate with a low one right after it makes one code
point, from the left; any other surrogate stays alone.

Main statement: the two halves of a code point make that code point again.
-/
import ModuleLinks.Text.Basic

set_option autoImplicit false

namespace ModuleLinks

namespace CodePoint

/-- The number of the high half of a code point beyond `0xFFFF`. -/
def highHalf (c : CodePoint) : Nat := 0xD800 + (c.val - 0x10000) / 0x400

/-- The number of the low half of a code point beyond `0xFFFF`. -/
def lowHalf (c : CodePoint) : Nat := 0xDC00 + (c.val - 0x10000) % 0x400

/-- **The code point that two halves make.** The bound cuts off only what no pair of surrogates
reaches. -/
def ofHalves (high low : CodePoint) : CodePoint :=
  ⟨min (0x10000 + (high.val - 0xD800) * 0x400 + (low.val - 0xDC00)) 0x10FFFF,
    Nat.min_le_right ..⟩

/-- The halves of a code point make it again. -/
theorem ofHalves_halves {c high low : CodePoint} (hc : 0x10000 ≤ c.val)
    (hh : high.val = c.highHalf) (hl : low.val = c.lowHalf) : ofHalves high low = c := by
  apply ext
  have := c.val_le
  simp only [ofHalves, hh, hl, highHalf, lowHalf]
  omega

end CodePoint

namespace Text

/-- **A text with its surrogate pairs joined**, from the left. -/
def joined : Text → Text
  | [] => []
  | [c] => [c]
  | c :: d :: rest =>
    if c.isHighSurrogate && d.isLowSurrogate then CodePoint.ofHalves c d :: joined rest
    else c :: joined (d :: rest)

end Text

end ModuleLinks

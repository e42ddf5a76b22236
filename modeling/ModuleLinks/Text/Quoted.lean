/-
The quoted form of a text, as messages show it.

A quoted text stands between apostrophes, or between quotation marks if it
holds an apostrophe and no quotation mark. The mark and the backslash are
written after a backslash, so are line feed, carriage return and tab in their
letter form; every other unprintable code point is written as its number.
-/
import ModuleLinks.Text.Hexadecimal
import ModuleLinks.Text.Printable

set_option autoImplicit false

namespace ModuleLinks.Text

/-- The apostrophe. -/
def apostrophe : CodePoint := ⟨0x27, by decide⟩

/-- The quotation mark. -/
def quotationMark : CodePoint := ⟨0x22, by decide⟩

/-- The backslash. -/
def backslash : CodePoint := ⟨0x5C, by decide⟩

/-- The mark that a quoted text stands between. -/
def mark (t : Text) : CodePoint :=
  if apostrophe ∈ t ∧ quotationMark ∉ t then quotationMark else apostrophe

/-- A code point by its number: two digits up to `0xFF`, four up to `0xFFFF`, then eight. -/
def numbered (c : CodePoint) : Text :=
  if c.val ≤ 0xFF then ofString "\\x" ++ ofChars (Hexadecimal.padded 2 c.val)
  else if c.val ≤ 0xFFFF then ofString "\\u" ++ ofChars (Hexadecimal.padded 4 c.val)
  else ofString "\\U" ++ ofChars (Hexadecimal.padded 8 c.val)

/-- One code point inside a text quoted with `mark`. -/
def quotedPoint (mark c : CodePoint) : Text :=
  if c = mark ∨ c = backslash then [backslash, c]
  else if c.is '\n' then ofString "\\n"
  else if c.is '\r' then ofString "\\r"
  else if c.is '\t' then ofString "\\t"
  else if c.isPrintable then [c]
  else numbered c

/-- **The quoted form** of a text. -/
def quoted (t : Text) : Text :=
  mark t :: t.flatMap (quotedPoint (mark t)) ++ [mark t]

end ModuleLinks.Text

/-
Writing a JSON document.

The document is pure ASCII: every code point beyond it, and the delete
character, is written as the number of its UTF-16 unit or units, in four
lower-case hexadecimal digits. Numbers that are none or infinite are written
under the names `NaN` and `Infinity`, which the reader knows. How members are
spaced is a `Layout`.
-/
import ModuleLinks.Json.Basic
import ModuleLinks.Number.Shortest
import ModuleLinks.Text.Hexadecimal
import ModuleLinks.Text.Units

set_option autoImplicit false

namespace ModuleLinks.Json

/-- **The spacing of a document.** -/
structure Layout where
  /-- What stands before each member at a depth, and before the closing bracket. -/
  lineBreak : Nat → List Char
  /-- What stands between two members, before the line break. -/
  separator : List Char

/-- Everything on one line. -/
def Layout.oneLine : Layout where
  lineBreak _ := []
  separator := [',', ' ']

/-- Each member on a line of its own, two blanks further in than its container. -/
def Layout.indented : Layout where
  lineBreak depth := '\n' :: List.replicate (2 * depth) ' '
  separator := [',']

/-- A UTF-16 unit as an escape. -/
def unitEscape (n : Nat) : List Char := '\\' :: 'u' :: Hexadecimal.padded 4 n

/-- One code point inside a string of a document. -/
def escapedPoint (c : CodePoint) : List Char :=
  if c.val = 0x22 then ['\\', '"']
  else if c.val = 0x5C then ['\\', '\\']
  else if c.val = 0x08 then ['\\', 'b']
  else if c.val = 0x09 then ['\\', 't']
  else if c.val = 0x0A then ['\\', 'n']
  else if c.val = 0x0C then ['\\', 'f']
  else if c.val = 0x0D then ['\\', 'r']
  else if 0x20 ≤ c.val ∧ c.val < 0x7F then [Char.ofNat c.val]
  else if c.val < 0x10000 then unitEscape c.val
  else unitEscape c.highHalf ++ unitEscape c.lowHalf

/-- A string of a document, with its quotation marks. -/
def quotedText (t : Text) : List Char := '"' :: t.flatMap escapedPoint ++ ['"']

mutual

/-- **The document of a value** inside `depth` containers. -/
def render (layout : Layout) (depth : Nat) : Json → List Char
  | .null => ['n', 'u', 'l', 'l']
  | .bool b => if b then ['t', 'r', 'u', 'e'] else ['f', 'a', 'l', 's', 'e']
  | .int n => (toString n).toList
  | .float x => x.render ['N', 'a', 'N'] ['I', 'n', 'f', 'i', 'n', 'i', 't', 'y']
  | .str t => quotedText t
  | .arr [] => ['[', ']']
  | .arr (j :: rest) =>
    '[' :: layout.lineBreak (depth + 1) ++ render layout (depth + 1) j
      ++ renderItems layout (depth + 1) rest ++ layout.lineBreak depth ++ [']']
  | .obj [] => ['{', '}']
  | .obj ((key, j) :: rest) =>
    '{' :: layout.lineBreak (depth + 1) ++ quotedText key ++ ':' :: ' ' ::
      render layout (depth + 1) j
      ++ renderFields layout (depth + 1) rest ++ layout.lineBreak depth ++ ['}']

/-- The items of a list after the first. -/
def renderItems (layout : Layout) (depth : Nat) : List Json → List Char
  | [] => []
  | j :: rest =>
    layout.separator ++ layout.lineBreak depth ++ render layout depth j
      ++ renderItems layout depth rest

/-- The fields of an object after the first. -/
def renderFields (layout : Layout) (depth : Nat) : List (Text × Json) → List Char
  | [] => []
  | (key, j) :: rest =>
    layout.separator ++ layout.lineBreak depth ++ quotedText key ++ ':' :: ' ' ::
      render layout depth j
      ++ renderFields layout depth rest

end

/-- The document of a value on one line. -/
def oneLine (j : Json) : String := String.ofList (j.render .oneLine 0)

end ModuleLinks.Json

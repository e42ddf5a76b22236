/-
A value as messages show it.

The literal form of a value names the constants `None`, `True` and `False`,
quotes strings, and puts a comma and a blank between the members of a list or
an object. The shown form is the same except that a string stands for itself.
-/
import ModuleLinks.Json.Basic
import ModuleLinks.Number.Shortest
import ModuleLinks.Text.Quoted

set_option autoImplicit false

namespace ModuleLinks.Json

mutual

/-- **The literal form** of a value. -/
def literal : Json → Text
  | .null => Text.ofString "None"
  | .bool b => Text.ofString (if b then "True" else "False")
  | .int n => Text.ofString (toString n)
  | .float x => Text.ofChars (x.render "nan".toList "inf".toList)
  | .str t => t.quoted
  | .arr items => Text.ofString "[" ++ literalItems items ++ Text.ofString "]"
  | .obj fields => Text.ofString "\x7b" ++ literalFields fields ++ Text.ofString "\x7d"

/-- The literal forms of the items of a list, with commas between them. -/
def literalItems : List Json → Text
  | [] => []
  | [j] => literal j
  | j :: k :: rest => literal j ++ Text.ofString ", " ++ literalItems (k :: rest)

/-- The literal forms of the fields of an object, with commas between them. -/
def literalFields : List (Text × Json) → Text
  | [] => []
  | [(key, j)] => key.quoted ++ Text.ofString ": " ++ literal j
  | (key, j) :: entry :: rest =>
    key.quoted ++ Text.ofString ": " ++ literal j ++ Text.ofString ", "
      ++ literalFields (entry :: rest)

end

/-- **The shown form** of a value: a string is itself, any other value is its literal. -/
def shown : Json → Text
  | .str t => t
  | j => j.literal

end ModuleLinks.Json

/-
JSON values, the form in which three of the four tree dialects arrive and in
which the fields of a link are kept.

Two points differ from the textbook type. **Order counts**: the fields of an
object stay in the order of the document, because the walk over a tree falls
back on it where positions are missing. **Integers are a kind of their own**:
`1` and `1.0` are different values, and only the former can be a position.
-/
import ModuleLinks.Number.Binary64
import ModuleLinks.Text.Basic
import ModuleLinks.Total

set_option autoImplicit false

namespace ModuleLinks

/-- **A JSON value.** -/
inductive Json where
  | null
  | bool (b : Bool)
  /-- A number written without fraction and exponent. -/
  | int (n : Int)
  | float (x : Binary64)
  | str (t : Text)
  | arr (items : List Json)
  /-- An object: its fields in the order of the document. -/
  | obj (fields : List (Text × Json))

namespace Json

instance : Inhabited Json := ⟨null⟩

/-- The string value that a literal spells. -/
def ofString (s : String) : Json := .str (Text.ofString s)

/-- The value is an object. -/
def isObject : Json → Bool
  | .obj _ => true
  | _ => false

/-- The value is `null`. -/
def isNull : Json → Bool
  | .null => true
  | _ => false

/-- The string of a string value. -/
def text? : Json → Option Text
  | .str t => some t
  | _ => none

/-- A value is **trivial** when it is `null`, `false`, a zero, or empty. -/
def isTrivial : Json → Bool
  | .null => true
  | .bool b => !b
  | .int n => n == 0
  | .float x => x.isZero
  | .str t => t.isEmpty
  | .arr items => items.isEmpty
  | .obj fields => fields.isEmpty

/-- The first value, unless it is trivial: then the second. -/
def orElse (a b : Json) : Json := if a.isTrivial then b else a

/-- The value is a string and spells the literal. -/
def isText (j : Json) (s : String) : Bool :=
  match j with
  | .str t => t.is s
  | _ => false

/-- The value of a field of an object, if there is one. -/
def field? (j : Json) (key : String) : Option Json :=
  match j with
  | .obj fields => fields.lookup (Text.ofString key)
  | _ => none

/-- **The value of a field**; `null` where there is none, also on a value that is no object. -/
def field (j : Json) (key : String) : Json := (j.field? key).getD .null

/-- The items of a list; no items on any other value. -/
def items : Json → List Json
  | .arr items => items
  | _ => []

/-- **What a loop over a value visits**: the items of a list, the code points of a string, the keys
of an object. A loop over any other value is an error. -/
def elements? : Json → Option (List Json)
  | .arr items => some items
  | .str t => some (t.map fun c => .str [c])
  | .obj fields => some (fields.map fun entry => .str entry.1)
  | _ => none

/-- The word for the kind of a value in messages. -/
def kindName : Json → String
  | .null => "NoneType"
  | .bool _ => "bool"
  | .int _ => "int"
  | .float _ => "float"
  | .str _ => "str"
  | .arr _ => "list"
  | .obj _ => "dict"

/-- **The integer reading** of a value: an integer itself, and a truth value as zero or one. -/
def int? : Json → Option Int
  | .int n => some n
  | .bool b => some (if b then 1 else 0)
  | _ => none

/-- The fields with one more: a key that is there already keeps its place and takes the new
value. -/
def insertField : List (Text × Json) → Text → Json → List (Text × Json)
  | [], key, value => [(key, value)]
  | (k, v) :: rest, key, value =>
    if k = key then (key, value) :: rest else (k, v) :: insertField rest key value

/-- The object that a sequence of fields makes, each field written over an earlier one of its
key. -/
def ofFields (fields : List (Text × Json)) : Json :=
  .obj (fields.foldl (fun made entry => insertField made entry.1 entry.2) [])

/-! ## Size -/

mutual

/-- The number of values in a value, itself included. -/
def weight : Json → Nat
  | .arr items => weightItems items + 1
  | .obj fields => weightFields fields + 1
  | _ => 1

/-- The number of values in a list of values. -/
def weightItems : List Json → Nat
  | [] => 0
  | j :: rest => weight j + weightItems rest

/-- The number of values in a list of fields. -/
def weightFields : List (Text × Json) → Nat
  | [] => 0
  | (_, j) :: rest => weight j + weightFields rest

end

/-- The weight of a list of values is the total of its members' weights. -/
theorem weightItems_eq (items : List Json) : weightItems items = total weight items := by
  induction items with
  | nil => rw [weightItems, total_nil]
  | cons j rest ih => rw [weightItems, total_cons, ih]

end Json

end ModuleLinks

/-
Logical modules as object trees.

Three parsers write a module as a JSON document, and they differ in small things:
where a name stands in an identifier, what a string is called, which fields a
specifier has and which of them are `null` without an alias, where attributes
are kept, what a dynamic import looks like. The encoding of a module is written
once, with these differences as functions of the parser.

Values are planted: they are told the address at which they stand, since a node
looks up its position there. The items of a module have the addresses of one
number, as they have in a parse tree, so that both are placed by the same
positions.
-/
import ModuleLinks.Proofs.ChildOrder
import ModuleLinks.Proofs.LogicalModule
import ModuleLinks.Proofs.Yields

set_option autoImplicit false

namespace ModuleLinks

open Code

namespace ObjectParser

/-- The dialect in which the trees of a parser are surveyed. -/
def dialect : ObjectParser → ObjectDialect
  | babel => ModuleLinks.babel
  | oxc => ModuleLinks.oxc
  | swc => ModuleLinks.swc

/-! ## Nodes

The position of a node is the last of its fields, and missing where there is
none. A value that is `fixed` has no nodes, or none that look for a position. -/

/-- The field that says where a node begins: a number, or a span that holds the number. -/
def placeField : ObjectParser → ℕ → Text × Json
  | babel, n | oxc, n => (Text.ofString "start", .int n)
  | swc, n => (Text.ofString "span", .obj [(Text.ofString "start", .int n)])

/-- The fields below an address, numbered from `i` on. -/
def growFields (address : List ℕ) : ℕ → List (Text × Planted Json) → List (Text × Json)
  | _, [] => []
  | i, (key, value) :: rest => (key, value (address ++ [i])) :: growFields address (i + 1) rest

/-- A value that is the same wherever it stands. -/
def fixed (j : Json) : Planted Json := fun _ => j

/-- A list of values, which have the addresses of its items. -/
def list (items : List (Planted Json)) : Planted Json := fun address => .arr (grow address 0 items)

/-- Fields with the spelling of their names. -/
def named : List (String × Planted Json) → List (Text × Planted Json)
  | [] => []
  | (key, value) :: rest => (Text.ofString key, value) :: named rest

/-- The field for the position of the node at an address, if the node has one. -/
def position (p : ObjectParser) (placement : Placement) (address : List ℕ) : List (Text × Json) :=
  ((placement.start? address).map p.placeField).toList

/-- **A node** with a type and fields, and with its position if it has one. -/
def node (p : ObjectParser) (placement : Placement) (type : Text)
    (fields : List (Text × Planted Json)) : Planted Json := fun address =>
  .obj ((Text.ofString "type", .str type) :: growFields address 0 fields
    ++ p.position placement address)

variable (p : ObjectParser) (placement : Placement)

/-- A node with the names of its fields, and its type, as strings. -/
def plainNode (type : String) (fields : List (String × Planted Json)) : Planted Json :=
  p.node placement (Text.ofString type) (named fields)

/-! ## Names and strings -/

/-- What the parser calls a string literal. -/
def literalType : ObjectParser → String
  | babel | swc => "StringLiteral"
  | oxc => "Literal"

/-- The key under which the parser keeps the name of an identifier. -/
def nameKey : ObjectParser → String
  | babel | oxc => "name"
  | swc => "value"

/-- A string literal that shows any text. -/
def textLiteral (t : Text) : Planted Json :=
  p.plainNode placement p.literalType [("value", fixed (.str t))]

/-- **A string literal**: its text, whatever pieces it was written in. -/
def literal (l : Literal) : Planted Json :=
  p.plainNode placement p.literalType [("value", fixed (.str l.text))]

/-- **An identifier**, its name under the key of the parser. -/
def identifier (chars : List Char) : Planted Json :=
  p.plainNode placement "Identifier" [(p.nameKey, fixed (.str (Text.ofChars chars)))]

/-- A name is written as the author wrote it: as an identifier or as a string. -/
def name : Name → Planted Json
  | .identifier chars => p.identifier placement chars
  | .string l => p.literal placement l

/-- A name that may be missing is `null` then. -/
def name? : Option Name → Planted Json
  | none => fixed .null
  | some n => p.name placement n

/-! ## Specifiers and attributes -/

/-- The fields of a named specifier. One parser leaves out what is imported if
it has no alias. -/
def namedFields (imported : Name) (bound : Option Name) : List (String × Planted Json) :=
  match p with
  | babel | oxc =>
    [("imported", p.name placement imported),
      ("local", p.name placement (bound.getD imported))]
  | swc =>
    [("local", p.name placement (bound.getD imported)),
      ("imported", p.name? placement (bound.map fun _ => imported))]

/-- **A specifier of an import.** One of a default or a namespace says only what it binds. -/
def specifier : Specifier → Planted Json
  | .defaultBinding bound =>
    p.plainNode placement "ImportDefaultSpecifier" [("local", p.identifier placement bound)]
  | .namespaceBinding bound =>
    p.plainNode placement "ImportNamespaceSpecifier" [("local", p.identifier placement bound)]
  | .named imported bound =>
    p.plainNode placement "ImportSpecifier" (p.namedFields placement imported bound)

/-- The fields of an exported name. One parser has a field for the alias, the
others one for the name that is exported. -/
def bindingFields (b : Binding) : List (String × Planted Json) :=
  match p with
  | babel | oxc =>
    [("local", p.name placement b.original), ("exported", p.name placement b.exported)]
  | swc => [("orig", p.name placement b.original), ("exported", p.name? placement b.alias?)]

/-- **An exported name** as a node. -/
def binding (b : Binding) : Planted Json :=
  p.plainNode placement "ExportSpecifier" (p.bindingFields placement b)

/-- What the parser calls an import attribute. -/
def attributeType : ObjectParser → String
  | babel | oxc => "ImportAttribute"
  | swc => "KeyValueProperty"

/-- **An import attribute**: its key is a name, and its value a string. -/
def attributeNode (a : Attribute) : Planted Json :=
  p.plainNode placement p.attributeType
    [("key", p.name placement a.key), ("value", p.literal placement a.value)]

/-- The object that one parser makes of import attributes, if there are any. -/
def clause : List Attribute → Planted Json
  | [] => fixed .null
  | attributes =>
    p.plainNode placement "ObjectExpression"
      [("properties", list (attributes.map (p.attributeNode placement)))]

/-- The attributes of a declaration with the name of the field in which the parser keeps them. -/
def attributesField (attributes : List Attribute) : String × Planted Json :=
  match p with
  | babel | oxc => ("attributes", list (attributes.map (p.attributeNode placement)))
  | swc => ("with", p.clause placement attributes)

/-! ## Dynamic imports -/

/-- The argument of a dynamic import. An expression that is computed is there as its parser writes
it. -/
def argument : Argument → Planted Json
  | .literal source => p.literal placement source.toLiteral
  | .computed expression => fixed (expression.object p).json

/-- An argument of a call together with its spread, which has no type. -/
def spread (argument : Planted Json) : Planted Json := fun address =>
  .obj [(Text.ofString "spread", .null), (Text.ofString "expression", argument (address ++ [0]))]

/-- The callee of a dynamic import where that is a call. -/
def keyword : Planted Json := p.plainNode placement "Import" []

/-- **A dynamic import**: a call of the keyword, or an expression of its own. -/
def importCall (argument : Planted Json) : Planted Json :=
  match p with
  | babel =>
    p.plainNode placement "CallExpression"
      [("callee", p.keyword placement), ("arguments", list [argument])]
  | oxc => p.plainNode placement "ImportExpression" [("source", argument)]
  | swc =>
    p.plainNode placement "CallExpression"
      [("callee", p.keyword placement), ("arguments", list [spread argument])]

/-- The field of a node of the program as it is written. -/
def written (field : Field) : Text × Planted Json := (field.name, fixed field.value.json)

/-- The value of the field in which another node stands. -/
def holding (w : ObjectWrapper) (inner : Planted Json) : Planted Json :=
  match w.beside? with
  | none => inner
  | some (left, right) =>
    list (left.map (fixed ·.json) ++ inner :: right.map (fixed ·.json))

/-- **A node around another node.** -/
def wrap (w : ObjectWrapper) (inner : Planted Json) : Planted Json :=
  p.node placement w.type
    (w.before.map written ++ (w.key.name, holding w inner) :: w.after.map written)

/-! ## Modules -/

/-- A declaration with its source and its attributes, behind other fields. -/
def declaration (type : String) (front : List (String × Planted Json)) (source : Planted Json)
    (attributes : List Attribute) : Planted Json :=
  p.plainNode placement type
    (front ++ [("source", source), p.attributesField placement attributes])

/-- **An item of a module as a node.** An export of names of the module itself has no source, and
no attributes then. -/
def item : Item → Planted Json
  | .importing clause source attributes =>
    p.declaration placement "ImportDeclaration"
      [("specifiers", list ((clause.flatMap Part.specifiers).map (p.specifier placement)))]
      (p.literal placement source.toLiteral) attributes
  | .reexport bindings source attributes =>
    p.declaration placement "ExportNamedDeclaration"
      [("declaration", fixed .null), ("specifiers", list (bindings.map (p.binding placement)))]
      (p.literal placement source.toLiteral) attributes
  | .reexportAll source attributes =>
    p.declaration placement "ExportAllDeclaration" [] (p.literal placement source.toLiteral)
      attributes
  | .exportList bindings =>
    p.declaration placement "ExportNamedDeclaration"
      [("declaration", fixed .null), ("specifiers", list (bindings.map (p.binding placement)))]
      (fixed .null) []
  | .dynamic around argument =>
    (around.object p).foldr (p.wrap placement)
      (p.importCall placement (p.argument placement argument))

/-- What the parser calls a program. -/
def programType : ObjectParser → String
  | babel | oxc => "Program"
  | swc => "Module"

/-- **A module as a document**: a program with the items in its body. -/
def program (items : List Item) : Json :=
  .obj ((Text.ofString "type", Json.ofString p.programType)
    :: (Text.ofString "body", .arr (grow [] 0 (items.map (p.item placement))))
    :: p.position placement [])

end ObjectParser

end ModuleLinks

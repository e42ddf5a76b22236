/-
The dialect of the SWC parser.

A tree is a `Module` or a `Script`. Positions stand in the `span` of a node,
and identifiers keep their name under `value`, as strings do. A re-export
without an alias has no exported name of its own: it exports the name it takes.
A dynamic import is a call whose callee has the type `Import`, and its arguments
are wrapped together with their spread. Import attributes are the properties of
an object under `asserts` or `with`.
-/
import ModuleLinks.Dialect.ObjectTree

set_option autoImplicit false

namespace ModuleLinks

namespace Swc

/-- The name that an identifier or a string spells, if it is a text. -/
def spelledName (node : Json) : Json :=
  if node.hasTypeIn ["Identifier", "StringLiteral"] then Json.ofText? (node.field "value").text?
  else .null

/-- The text of a string literal. -/
def literal? (node : Json) : Option Text :=
  if node.hasType "StringLiteral" then (node.field "value").text? else none

/-- The alias of an export specifier, or the name it takes if it has none. -/
def exported (spec : Json) : Json :=
  if (spec.field "exported").isNull then spec.field "orig" else spec.field "exported"

/-- The properties of the object with the attributes of a declaration. -/
def attributes (node : Json) : Json :=
  ((node.field "asserts").orElse (node.field "with")).field "properties"

/-- A call of the import keyword. -/
def isDynamicImport (node : Json) : Bool :=
  node.hasType "CallExpression" && (node.field "callee").hasType "Import"

/-- The expression of the first of the arguments of a call; `null` for none. -/
def firstArgument : Json → Except Failure Json
  | .arr (argument :: _) => .ok (argument.field "expression")
  | .str (_ :: _) => .ok .null
  | .obj (_ :: _) => .error .notOrdered
  | arguments => if arguments.isTrivial then .ok .null else .error .notIndexable

/-- The first argument of a call. -/
def importArgument (node : Json) : Except Failure Json :=
  if node.isObject then firstArgument (node.field "arguments") else .error .notANode

end Swc

/-- **The dialect of the SWC parser.** -/
def swc : ObjectDialect where
  name := "swc"
  rootTypes := ["Module", "Script"]
  unwrap document := document
  program? document := some document
  forms :=
    [("ImportDeclaration", .importDeclaration), ("ExportNamedDeclaration", .namedExport),
     ("ExportAllDeclaration", .wholeExport), ("CallExpression", .importCall)]
  offset? node := ((node.field "span").field "start").int?
  spelledName := Swc.spelledName
  literal? := Swc.literal?
  taken spec := spec.field "orig"
  exported := Swc.exported
  attributes := Swc.attributes
  isDynamicImport := Swc.isDynamicImport
  importArgument := Swc.importArgument

end ModuleLinks

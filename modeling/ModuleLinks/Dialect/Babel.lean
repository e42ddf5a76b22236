/-
The dialect of the Babel parser.

A tree is a `Program`, or a `File` around one. Identifiers keep their name
under `name` and strings their text under `value`. A dynamic import is either a
call whose callee has the type `Import` or an import expression, depending on
an option of the parser. Import attributes stand under `attributes`, in older
trees under `assertions`.
-/
import ModuleLinks.Dialect.ObjectTree

set_option autoImplicit false

namespace ModuleLinks

namespace Babel

/-- The program of a root: that of a file, or the root itself. -/
def program? (document : Json) : Option Json :=
  if document.hasType "File" then
    if (document.field "program").hasType "Program" then some (document.field "program") else none
  else some document

/-- The name that an identifier or a string spells, as the value it is. -/
def spelledName (node : Json) : Json :=
  if node.hasType "Identifier" then node.field "name"
  else if node.hasType "StringLiteral" then node.field "value"
  else .null

/-- The text of a string literal. -/
def literal? (node : Json) : Option Text :=
  if node.hasType "StringLiteral" then (node.field "value").text? else none

/-- An import expression, or a call of the import keyword. -/
def isDynamicImport (node : Json) : Bool :=
  node.hasType "ImportExpression"
    || node.hasType "CallExpression" && (node.field "callee").hasType "Import"

/-- The first of the arguments of a call; `null` for none. -/
def firstArgument : Json → Except Failure Json
  | .arr (argument :: _) => .ok argument
  | .str (c :: _) => .ok (.str [c])
  | .obj (_ :: _) => .error .notOrdered
  | arguments => if arguments.isTrivial then .ok .null else .error .notIndexable

/-- The source of an import expression, or the first argument of a call. -/
def importArgument (node : Json) : Except Failure Json :=
  if node.hasType "ImportExpression" then .ok (node.field "source")
  else if node.isObject then firstArgument (node.field "arguments")
  else .error .notANode

end Babel

/-- **The dialect of the Babel parser.** -/
def babel : ObjectDialect where
  name := "babel"
  rootTypes := ["File", "Program"]
  unwrap document := document
  program? := Babel.program?
  forms :=
    [("ImportDeclaration", .importDeclaration), ("ExportNamedDeclaration", .namedExport),
     ("ExportAllDeclaration", .wholeExport), ("CallExpression", .importCall),
     ("ImportExpression", .importExpression)]
  offset? node := (node.field "start").int?
  spelledName := Babel.spelledName
  literal? := Babel.literal?
  taken _ := .null
  exported spec := spec.field "exported"
  attributes node := (node.field "attributes").orElse (node.field "assertions")
  isDynamicImport := Babel.isDynamicImport
  importArgument := Babel.importArgument

end ModuleLinks

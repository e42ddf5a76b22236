/-
The dialect of the Oxc parser, in the shape of the ESTree standard.

A tree is a `Program`; the parser's whole answer, with the program beside
module records and errors, is accepted too. Identifiers have several types, all
with their name under `name`; strings are literals like any other, so a literal
spells a name only if its value is a string. Dynamic imports are import
expressions. Import attributes stand under `attributes`, or as the entries of a
`withClause`.
-/
import ModuleLinks.Dialect.ObjectTree

set_option autoImplicit false

namespace ModuleLinks

namespace Oxc

/-- The program of a parser's whole answer, which has no type of its own. -/
def unwrap (document : Json) : Json :=
  match document.field? "type", document.field? "program" with
  | none, some program => program
  | _, _ => document

/-- The types of identifiers. -/
def identifierTypes : List String :=
  ["Identifier", "IdentifierName", "IdentifierReference", "BindingIdentifier"]

/-- The text of a literal whose value is a string. -/
def literal? (node : Json) : Option Text :=
  if node.hasTypeIn ["Literal", "StringLiteral"] then (node.field "value").text? else none

/-- The name that an identifier spells, as the value it is, or the text of a string. -/
def spelledName (node : Json) : Json :=
  if node.hasTypeIn identifierTypes then node.field "name" else Json.ofText? (literal? node)

/-- The attributes of a declaration, or the entries of its clause if it has no such field. -/
def attributes (node : Json) : Json :=
  if (node.field "attributes").isNull then (node.field "withClause").field "withEntries"
  else node.field "attributes"

/-- The source of an import expression. -/
def importArgument (node : Json) : Except Failure Json :=
  if node.isObject then .ok (node.field "source") else .error .notANode

end Oxc

/-- **The dialect of the Oxc parser.** -/
def oxc : ObjectDialect where
  name := "oxc"
  rootTypes := ["Program"]
  unwrap := Oxc.unwrap
  program? document := some document
  forms :=
    [("ImportDeclaration", .importDeclaration), ("ExportNamedDeclaration", .namedExport),
     ("ExportAllDeclaration", .wholeExport), ("ImportExpression", .importExpression)]
  offset? node := (node.field "start").int?
  spelledName := Oxc.spelledName
  literal? := Oxc.literal?
  taken _ := .null
  exported spec := spec.field "exported"
  attributes := Oxc.attributes
  isDynamicImport node := node.hasType "ImportExpression"
  importArgument := Oxc.importArgument

end ModuleLinks

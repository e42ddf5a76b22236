/-
The dialect of concrete parse trees, as Tree-sitter makes them from its grammar
of JavaScript.

A parse tree has no fields with values, only tokens: the name of a specifier is
the bytes of a node, and a string is put together from the fragments and
escapes between its quotation marks. Bytes that are not UTF-8 make the question
for a name fail.
-/
import ModuleLinks.Dialect.Basic
import ModuleLinks.Dialect.Escape
import ModuleLinks.Text.Utf8

set_option autoImplicit false

namespace ModuleLinks

namespace ParseNode

/-- The bytes of a node as a text. -/
def text (node : ParseNode) : Except Failure Text :=
  match Utf8.decode? node.bytes with
  | some t => .ok t
  | none => .error .notUtf8

/-- The text that a piece of a string literal contributes: a fragment its own text, an escape what
it denotes, a quotation mark or a comment nothing. -/
def piece (node : ParseNode) : Except Failure Text :=
  if node.hasType "string_fragment" then node.text
  else if node.hasType "escape_sequence" then do Escape.decode (← node.text)
  else .ok []

/-- **The text of a string literal**, piece by piece; none for a node of another type. -/
def literal? (node : ParseNode) : Except Failure (Option Text) :=
  if node.hasType "string" then do
    return some (← node.children.mapM piece).flatten
  else .ok none

/-- The name that a node spells: the text of a string literal, or the node's own text. -/
def spelledName (node : ParseNode) : Except Failure Json :=
  if node.hasType "string" then node.literal?.map Json.ofText?
  else node.text.map Json.str

/-- The name that the value of a field spells, if the field has one. -/
def spelledName? : Option ParseNode → Except Failure Json
  | some node => node.spelledName
  | none => .ok .null

/-- The text of the string literal that the value of a field is, if the field has one. -/
def fieldLiteral? (node : ParseNode) (name : String) : Except Failure (Option Text) :=
  match node.child? name with
  | some child => child.literal?
  | none => .ok none

end ParseNode

namespace TreeSitter

/-- The root of a tree, which has to be that of a program. -/
def root (subject : Subject) : Except Failure ParseNode :=
  let accept (node : ParseNode) : Except Failure ParseNode :=
    if node.hasType "program" then .ok node
    else .error (Dialect.unexpectedRoot "tree-sitter" (.str node.type))
  match subject with
  | .tree node => accept node
  | .node node => accept node
  | .json _ => .error (Dialect.unexpectedKind "tree-sitter" "tree-sitter Tree" subject)

/-- The form of a node. An export statement with a star, alone or in front of a name, exports a
whole module. -/
def form? (node : ParseNode) : Option Form :=
  if node.hasType "import_statement" then some .importDeclaration
  else if node.hasType "export_statement" then
    if node.children.any fun child => child.type.isOneOf ["*", "namespace_export"] then
      some .wholeExport
    else some .namedExport
  else if node.hasType "call_expression" then some .importCall
  else none

/-- The specifiers in one part of an import clause. -/
def partSpecifiers (part : ParseNode) : List ParseNode :=
  if part.type.isOneOf ["identifier", "namespace_import"] then [part]
  else if part.hasType "named_imports" then part.namedChildrenOf "import_specifier"
  else []

/-- The specifiers in one child of a declaration. -/
def clauseSpecifiers (clause : ParseNode) : List ParseNode :=
  if clause.hasType "import_clause" then clause.namedChildren.flatMap partSpecifiers
  else if clause.hasType "export_clause" then clause.namedChildrenOf "export_specifier"
  else if clause.hasType "namespace_export" then [clause]
  else []

/-- **The specifiers of a declaration**, in order. -/
def specifiers (node : ParseNode) : List ParseNode :=
  node.namedChildren.flatMap clauseSpecifiers

/-- How much of a module a specifier binds, by its type. -/
def reach (spec : ParseNode) : Reach :=
  if spec.hasType "identifier" then .defaultExport
  else if spec.type.isOneOf ["namespace_import", "namespace_export"] then .wholeModule
  else .oneName

/-- The name in a field of a specifier of a type; absent on any other specifier. -/
def nameIn (type field : String) (spec : ParseNode) : Except Failure Json :=
  if spec.hasType type then ParseNode.spelledName? (spec.child? field) else .ok .null

/-- The name that an export specifier exports: its alias, or its only name. -/
def exportedName (spec : ParseNode) : Except Failure Json :=
  if spec.hasType "export_specifier" then
    ParseNode.spelledName? ((spec.child? "alias").or (spec.child? "name"))
  else .ok .null

/-- The pairs of a declaration's import attributes. -/
def attributePairs (node : ParseNode) : List ParseNode :=
  (node.namedChildrenOf "import_attribute").flatMap fun clause =>
    clause.namedChildren.flatMap (ParseNode.namedChildrenOf · "pair")

/-- The text of the value of the first pair whose key is `type`. -/
def typeAttribute? : List ParseNode → Except Failure (Option Text)
  | [] => .ok none
  | pair :: rest => do
    let key ← ParseNode.spelledName? (pair.child? "key")
    if key.isText "type" then pair.fieldLiteral? "value" else typeAttribute? rest

/-- A call of the import keyword. -/
def isDynamicImport (node : ParseNode) : Bool :=
  node.hasType "call_expression" &&
    match node.child? "function" with
    | some function => function.hasType "import"
    | none => false

/-- The first argument of a call that is no comment. -/
def importArgument? (node : ParseNode) : Option ParseNode :=
  match node.child? "arguments" with
  | some arguments => arguments.namedChildren.find? fun child => !child.hasType "comment"
  | none => none

end TreeSitter

/-- **The dialect of concrete parse trees.** -/
def treeSitter : Dialect ParseNode where
  name := "tree-sitter"
  root := TreeSitter.root
  typeOf? node := some node.type
  form? := TreeSitter.form?
  children := ParseNode.children
  weight := ParseNode.weight
  weight_children node := by rw [ParseNode.weight_eq node]; omega
  specifiers := TreeSitter.specifiers
  reach := TreeSitter.reach
  importedName := TreeSitter.nameIn "import_specifier" "name"
  takenName := TreeSitter.nameIn "export_specifier" "name"
  localName := TreeSitter.nameIn "import_specifier" "alias"
  exportedName := TreeSitter.exportedName
  spelledName := ParseNode.spelledName
  hasSource node := (node.child? "source").isSome
  literal? := ParseNode.literal?
  source? node := node.fieldLiteral? "source"
  assertion? node := TreeSitter.typeAttribute? (TreeSitter.attributePairs node)
  isDynamicImport := TreeSitter.isDynamicImport
  importArgument? node := .ok (TreeSitter.importArgument? node)

end ModuleLinks

/-
Logical modules as parse trees.

A parse tree has every token of the program in it: the keywords, the braces and
commas, the quotation marks. So what is a field with a text elsewhere is a node
with bytes here, and a list is a row of nodes with commas between them. A string
is taken apart into its fragments and escapes.

The addresses of the nodes are those at which they stand in the tree.
-/
import ModuleLinks.Dialect.TreeSitter
import ModuleLinks.Proofs.LogicalModule
import ModuleLinks.Proofs.Utf8Reading
import ModuleLinks.Proofs.Yields

set_option autoImplicit false

namespace ModuleLinks.ParseTree

open Code

variable (placement : Placement)

/-! ## Nodes and tokens -/

/-- **A node** at an address, with its position there; one without a position begins at zero. Its
children are numbered below it. -/
def node (type : Text) (isNamed : Bool) (field : Option String) (bytes : List UInt8)
    (children : List (Planted ParseNode)) : Planted ParseNode := fun address =>
  { address := address
    type := type
    isNamed := isNamed
    fieldName := field.map Text.ofString
    start := (placement.start? address).getD 0
    bytes := bytes
    children := grow address 0 children }

/-- **A token** of the program, whose type is the word itself. -/
def token (word : String) : Planted ParseNode :=
  node placement (Text.ofString word) false none (Utf8.encode word.toList) []

/-- A node with characters of its own. -/
def leaf (type : String) (field : Option String) (chars : List Char) : Planted ParseNode :=
  node placement (Text.ofString type) true field (Utf8.encode chars) []

/-- A node around others, whose bytes are theirs. -/
def branch (type : Text) (field : Option String) (children : List (Planted ParseNode)) :
    Planted ParseNode := fun address =>
  node placement type true field ((grow address 0 children).flatMap ParseNode.bytes) children
    address

/-- A branch with its type as a string. -/
def plainBranch (type : String) (field : Option String) (children : List (Planted ParseNode)) :
    Planted ParseNode :=
  branch placement (Text.ofString type) field children

/-- Nodes with commas between them. -/
def separated (items : List (Planted ParseNode)) : List (Planted ParseNode) :=
  items.intersperse (token placement ",")

/-- Nodes in braces, with commas between them. -/
def braced (items : List (Planted ParseNode)) : List (Planted ParseNode) :=
  token placement "\x7b" :: (separated placement items ++ [token placement "\x7d"])

/-! ## Names and strings -/

/-- A piece of a string literal: a fragment, or an escape as it is written. -/
def piece : Piece → Planted ParseNode
  | .run chars => leaf placement "string_fragment" none chars
  | .escape written _ _ => leaf placement "escape_sequence" none written

/-- **A string literal**: its pieces between quotation marks. -/
def literal (field : Option String) (l : Literal) : Planted ParseNode :=
  plainBranch placement "string" field
    (token placement "\x22" :: (l.pieces.map (piece placement) ++ [token placement "\x22"]))

/-- A name is written as the author wrote it. An identifier has the type that goes with its place.
-/
def name (type : String) (field : Option String) : Name → Planted ParseNode
  | .identifier chars => leaf placement type field chars
  | .string l => literal placement field l

/-! ## Specifiers and attributes -/

/-- A specifier with a name, and with an alias if there is one. -/
def aliased (type : String) (first : Name) (second : Option Name) : Planted ParseNode :=
  plainBranch placement type none
    (name placement "identifier" (some "name") first ::
      match second with
      | none => []
      | some other =>
        [token placement "as", name placement "identifier" (some "alias") other])

/-- **A part of an import clause.** -/
def part : Part → Planted ParseNode
  | .defaultBinding bound => leaf placement "identifier" none bound
  | .namespaceBinding bound =>
    plainBranch placement "namespace_import" none
      [token placement "*", token placement "as", leaf placement "identifier" none bound]
  | .named group =>
    plainBranch placement "named_imports" none
      (braced placement
        (group.map fun entry => aliased placement "import_specifier" entry.1 entry.2))

/-- The clause of an import and the word behind it, if there is a clause. -/
def importClause : List Part → List (Planted ParseNode)
  | [] => []
  | parts =>
    [plainBranch placement "import_clause" none
      (separated placement (parts.map (part placement))), token placement "from"]

/-- The names of an export in braces. -/
def exportClause (bindings : List Binding) : Planted ParseNode :=
  plainBranch placement "export_clause" none
    (braced placement
      (bindings.map fun b => aliased placement "export_specifier" b.original b.alias?))

/-- An import attribute as a pair in an object. -/
def pair (a : Attribute) : Planted ParseNode :=
  plainBranch placement "pair" none
    [name placement "property_identifier" (some "key") a.key, token placement ":",
      literal placement (some "value") a.value]

/-- The clause with the attributes, if there are any. -/
def attributeClause : List Attribute → List (Planted ParseNode)
  | [] => []
  | attributes =>
    [plainBranch placement "import_attribute" none
      [token placement "with",
        plainBranch placement "object" none (braced placement (attributes.map (pair placement)))]]

/-- The source of a declaration and what stands behind it. -/
def ending (source : Source) (attributes : List Attribute) : List (Planted ParseNode) :=
  literal placement (some "source") source.toLiteral ::
    (attributeClause placement attributes ++ [token placement ";"])

/-! ## Dynamic imports -/

/-- The argument of a dynamic import. An expression that is computed is there as its parser writes
it. -/
def argument : Argument → Planted ParseNode
  | .literal source => literal placement none source.toLiteral
  | .computed expression => expression.tree.planted

/-- **A dynamic import**: a call of the keyword. -/
def importCall (argument : Planted ParseNode) (field : Option String) : Planted ParseNode :=
  plainBranch placement "call_expression" field
    [leaf placement "import" (some "function") "import".toList,
      plainBranch placement "arguments" (some "arguments")
        [token placement "(", argument, token placement ")"]]

/-- **A node around another node**, which is told the field in which it stands. -/
def wrap (w : TreeWrapper) (inner : Option String → Planted ParseNode) (field : Option String) :
    Planted ParseNode :=
  node placement w.type true field w.bytes
    (w.before.map Tree.planted ++ inner w.field :: w.after.map Tree.planted)

/-! ## Modules -/

/-- **An item of a module as a statement**, token by token. -/
def item : Item → Planted ParseNode
  | .importing clause source attributes =>
    plainBranch placement "import_statement" none
      (token placement "import" ::
        (importClause placement clause ++ ending placement source attributes))
  | .reexport bindings source attributes =>
    plainBranch placement "export_statement" none
      (token placement "export" :: exportClause placement bindings :: token placement "from" ::
        ending placement source attributes)
  | .reexportAll source attributes =>
    plainBranch placement "export_statement" none
      (token placement "export" :: token placement "*" :: token placement "from" ::
        ending placement source attributes)
  | .exportList bindings =>
    plainBranch placement "export_statement" none
      [token placement "export", exportClause placement bindings, token placement ";"]
  | .dynamic around called =>
    around.tree.foldr (wrap placement) (importCall placement (argument placement called)) none

/-- **A module as a parse tree**: a program with the items below it. -/
def program (items : List Item) : ParseNode :=
  plainBranch placement "program" none (items.map (item placement)) []

end ModuleLinks.ParseTree

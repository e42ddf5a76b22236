/-
Dialects: what a survey needs to know of a syntax tree.

Each parser has its own shape of tree. A **dialect** is the record of questions
that a survey asks of a node of that shape: its type, its children in order,
whether it is a declaration that can refer to another module, and, if so, its
specifiers, names, source and asserted type. The rest of the library is written
against this record and knows no particular parser.

Names are JSON values, with `null` for an absent one. A question that needs the
text of a node can fail; the others cannot.
-/
import ModuleLinks.Failure
import ModuleLinks.Dialect.ParseNode

set_option autoImplicit false

namespace ModuleLinks

/-- **The forms of code that refer to another module.** -/
inductive Form where
  | importDeclaration
  /-- An export declaration with named bindings, or with a declaration of its own. -/
  | namedExport
  | wholeExport
  /-- A call, which is an import if its callee is the import keyword. -/
  | importCall
  | importExpression
deriving DecidableEq

/-- **How much of a module a specifier binds.** -/
inductive Reach where
  | defaultExport
  | wholeModule
  | oneName
deriving DecidableEq

/-- **What can be handed in for a survey.** -/
inductive Subject where
  | json (j : Json)
  | tree (root : ParseNode)
  | node (n : ParseNode)

/-- The word for the kind of a subject in messages. -/
def Subject.kindName : Subject → String
  | .json j => j.kindName
  | .tree _ => "Tree"
  | .node _ => "Node"

/-- **A dialect** with nodes of type `ν`. -/
structure Dialect (ν : Type) where
  name : String
  /-- The node at which a survey of a subject begins. -/
  root : Subject → Except Failure ν
  /-- The type of a node, if it has one. -/
  typeOf? : ν → Option Text
  /-- The form of a node that can refer to another module. -/
  form? : ν → Option Form
  /-- The children of a node, in the order of the survey. -/
  children : ν → List ν
  /-- A bound for the number of nodes below a node. -/
  weight : ν → Nat
  /-- The children of a node weigh less than the node, all taken together. -/
  weight_children : ∀ node, total weight (children node) < weight node
  specifiers : ν → List ν
  /-- How much of a module a specifier binds. -/
  reach : ν → Reach
  /-- The name that an import specifier imports. -/
  importedName : ν → Except Failure Json
  /-- The name that an export specifier takes from the other module. -/
  takenName : ν → Except Failure Json
  /-- The name that a specifier binds in this module. -/
  localName : ν → Except Failure Json
  /-- The name that an export specifier exports. -/
  exportedName : ν → Except Failure Json
  /-- The name that an identifier or a string spells. -/
  spelledName : ν → Except Failure Json
  /-- The declaration names another module, or at least has the place for its name filled. -/
  hasSource : ν → Bool
  /-- The text of a string literal; none for any other node. -/
  literal? : ν → Except Failure (Option Text)
  /-- The text of the literal in the place for the name of another module. -/
  source? : ν → Except Failure (Option Text)
  /-- The type that a declaration asserts of the other module. -/
  assertion? : ν → Except Failure (Option Text)
  /-- The node is an import while the module runs. -/
  isDynamicImport : ν → Bool
  /-- The argument of such an import, if it has one. -/
  importArgument? : ν → Except Failure (Option ν)

/-- The value that stands for a text or for its absence. -/
def Json.ofText? : Option Text → Json
  | some t => .str t
  | none => .null

namespace Dialect

variable {ν : Type}

/-- The type of a node as a detail of a report. -/
def typeDetail (d : Dialect ν) (node : ν) : Json := Json.ofText? (d.typeOf? node)

/-- The failure of a subject that is not a tree of the dialect. -/
def unsupported (name : String) (reason : Text) : Failure :=
  .unsupportedDialect (Json.ofString name) (.str reason)

/-- The failure of a subject of the wrong kind. -/
def unexpectedKind (name expected : String) (subject : Subject) : Failure :=
  unsupported name (Text.ofString "expected a " ++ Text.ofString expected
    ++ Text.ofString ", got " ++ Text.ofString subject.kindName)

/-- The failure of a tree whose root has the wrong type. -/
def unexpectedRoot (name : String) (type : Json) : Failure :=
  unsupported name (Text.ofString "unexpected root node " ++ type.literal)

end Dialect

end ModuleLinks

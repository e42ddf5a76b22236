/-
Nodes of a concrete parse tree.

A parse tree keeps every token of the program. A node has a type, is **named**
if it stands for a rule of the grammar and not for a token, can be the value of
a **field** of its parent, and covers a range of the bytes of the program. The
address of a node, the positions of the children that lead to it from the root,
tells it from every other node of the tree.
-/
import ModuleLinks.Text.Basic
import ModuleLinks.Total

set_option autoImplicit false

namespace ModuleLinks

/-- **A node of a parse tree.** -/
structure ParseNode where
  /-- The positions of the children that lead to the node from the root. -/
  address : List Nat
  type : Text
  /-- The node stands for a rule of the grammar. -/
  isNamed : Bool
  /-- The field of the parent whose value the node is. -/
  fieldName : Option Text
  /-- The offset of its first byte in the program. -/
  start : Nat
  /-- The bytes of the program that it covers. -/
  bytes : List UInt8
  /-- The nodes directly below, tokens included, in the order of the program. -/
  children : List ParseNode

namespace ParseNode

mutual

/-- The number of nodes of a tree. -/
def weight : ParseNode → Nat
  | ⟨_, _, _, _, _, _, children⟩ => weightAll children + 1

/-- The number of nodes of several trees. -/
def weightAll : List ParseNode → Nat
  | [] => 0
  | node :: rest => weight node + weightAll rest

end

/-- The weight of several trees is the total of their weights. -/
theorem weightAll_eq (nodes : List ParseNode) : weightAll nodes = total weight nodes := by
  induction nodes with
  | nil => rw [weightAll, total_nil]
  | cons node rest ih => rw [weightAll, total_cons, ih]

/-- The children of a node weigh one less than the node. -/
theorem weight_eq (node : ParseNode) : node.weight = total weight node.children + 1 := by
  cases node
  rw [weight, weightAll_eq]

/-- The node has the type that the string spells. -/
def hasType (node : ParseNode) (type : String) : Bool := node.type.is type

/-- The children that stand for rules of the grammar. -/
def namedChildren (node : ParseNode) : List ParseNode := node.children.filter isNamed

/-- The named children of a type. -/
def namedChildrenOf (node : ParseNode) (type : String) : List ParseNode :=
  node.namedChildren.filter (hasType · type)

/-- The child that is the value of a field. -/
def child? (node : ParseNode) (name : String) : Option ParseNode :=
  node.children.find? fun child => match child.fieldName with
    | some field => field.is name
    | none => false

end ParseNode

end ModuleLinks

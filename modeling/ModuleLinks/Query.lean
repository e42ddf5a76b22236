/-
Queries: single questions about a node.

A survey asks its questions in a fixed order and only of nodes that they fit. A
query is one such question, asked of any node; the answer says of which kind it
is. A parse tree's questions can be put to a JSON value as well: a value that
is no node has no type and no form, `null` in the place of a name is no name,
and every other question needs a node.
-/
import ModuleLinks.Survey

set_option autoImplicit false

namespace ModuleLinks

/-- **A question about a node.** -/
inductive Query where
  | type
  | form
  | root
  | children
  | specifiers
  | reach
  | importedName
  | takenName
  | localName
  | exportedName
  | spelledName
  | hasSource
  | source
  | literal
  | assertion
  | isDynamicImport
  | importArgument
  | tags
  | tag
  | dynamicLink
  | importLink
  | namedExportLink
  | wholeExportLink
deriving DecidableEq

/-- **An answer to a query** about a node of type `ν`. -/
inductive Query.Answer (ν : Type) where
  | value (j : Json)
  | values (js : List Json)
  | flag (b : Bool)
  | form (f : Option Form)
  | reach (r : Reach)
  | node (n : Option ν)
  | nodes (ns : List ν)
  | link (l : Option Link)

namespace Query

variable {ν : Type}

/-- **The answer of a dialect**, the node being handed in as a subject where its root is asked
for. -/
def answer (d : Dialect ν) (asSubject : ν → Subject) (node : ν) :
    Query → Except Failure (Answer ν)
  | type => .ok (.value (d.typeDetail node))
  | form => .ok (.form (d.form? node))
  | root => (d.root (asSubject node)).map fun n => .node (some n)
  | children => .ok (.nodes (d.children node))
  | specifiers => .ok (.nodes (d.specifiers node))
  | reach => .ok (.reach (d.reach node))
  | importedName => (d.importedName node).map .value
  | takenName => (d.takenName node).map .value
  | localName => (d.localName node).map .value
  | exportedName => (d.exportedName node).map .value
  | spelledName => (d.spelledName node).map .value
  | hasSource => .ok (.flag (d.hasSource node))
  | source => (d.source? node).map fun t => .value (Json.ofText? t)
  | literal => (d.literal? node).map fun t => .value (Json.ofText? t)
  | assertion => (d.assertion? node).map fun t => .value (Json.ofText? t)
  | isDynamicImport => .ok (.flag (d.isDynamicImport node))
  | importArgument => (d.importArgument? node).map .node
  | tags => (d.tags node).map .values
  | tag => (d.tag node).map .value
  | dynamicLink => (d.dynamicLink? node).map .link
  | importLink => (d.importLink node).map fun l => .link (some l)
  | namedExportLink => (d.namedExportLink? node).map .link
  | wholeExportLink => (d.wholeExportLink? node).map .link

/-- The answer of the dialect of parse trees where a JSON value stands in the place of a node. -/
def answerWithoutNode (j : Json) : Query → Except Failure (Answer ParseNode)
  | type => .ok (.value .null)
  | form => .ok (.form none)
  | root => (treeSitter.root (.json j)).map fun n => .node (some n)
  | spelledName | literal => if j.isNull then .ok (.value .null) else .error .notANode
  | _ => .error .notANode

end Query

end ModuleLinks

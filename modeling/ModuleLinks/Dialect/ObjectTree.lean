/-
Dialects whose trees are JSON documents.

Three parsers hand out their trees as JSON: a node is an object, its type is
the string under `type`, and the nodes below it are the objects among the
values of its fields, or in lists there. What the three share is written here
once; where they differ is an `ObjectDialect`.

**Order of children.** The fields of an object may come in any order, so the
children of a node are sorted by their positions in the program where every one
of them has a position, and stay in the order of the document otherwise. The
sort keeps the order of the document among equal positions.
-/
import ModuleLinks.Dialect.Basic
import ModuleLinks.Link.Record

set_option autoImplicit false

namespace ModuleLinks

namespace Json

/-- The type of a node of an object tree. -/
def nodeType? (node : Json) : Option Text := (node.field "type").text?

/-- The node has the type that the string spells. -/
def hasType (node : Json) (type : String) : Bool :=
  match node.nodeType? with
  | some t => t.is type
  | none => false

/-- The node has one of the types. -/
def hasTypeIn (node : Json) (types : List String) : Bool := types.any node.hasType

/-- The fields that describe a node and hold no nodes of the program. -/
def metadataKeys : List String :=
  ["loc", "span", "range", "extra", "comments", "leadingComments", "trailingComments",
   "innerComments", "tokens", "errors"]

/-- The nodes that the value of a field holds: itself, or the objects in it if it is a list. -/
def nodesOf : Json → List Json
  | .obj fields => [.obj fields]
  | .arr items => items.filter isObject
  | _ => []

/-- **The nodes directly below an object**, in the order of the document. -/
def occurrences : List (Text × Json) → List Json
  | [] => []
  | (key, value) :: rest =>
    (if key.isOneOf metadataKeys then [] else nodesOf value) ++ occurrences rest

/-- The values with their positions, if all of them have one. -/
def positioned? (offset? : Json → Option Int) (nodes : List Json) : Option (List (Int × Json)) :=
  nodes.mapM fun node => (offset? node).map (·, node)

/-- **Nodes in the order of the program**: sorted by position where all have one. -/
def inOrder (offset? : Json → Option Int) (nodes : List Json) : List Json :=
  match positioned? offset? nodes with
  | some pairs => (pairs.mergeSort fun a b => a.1 ≤ b.1).map Prod.snd
  | none => nodes

/-- The value holds others. -/
def isContainer : Json → Bool
  | .obj _ | .arr _ => true
  | _ => false

/-- **The children of a node.** A list stands for the objects and lists in it. -/
def children (offset? : Json → Option Int) : Json → List Json
  | .arr items => items.filter isContainer
  | .obj fields => inOrder offset? (occurrences fields)
  | _ => []

/-! ## Children weigh less than their parent -/

/-- The nodes that a field holds weigh no more than its value. -/
theorem total_nodesOf_le (value : Json) : total weight (nodesOf value) ≤ value.weight := by
  cases value with
  | arr items =>
    have := total_filter_le weight isObject items
    simp only [nodesOf, weight, weightItems_eq]
    omega
  | obj fields => simp [nodesOf]
  | _ => simp [nodesOf]

/-- So the children of an object weigh no more than its fields. -/
theorem total_occurrences_le (fields : List (Text × Json)) :
    total weight (occurrences fields) ≤ weightFields fields := by
  induction fields with
  | nil => simp [occurrences]
  | cons entry rest ih =>
    obtain ⟨key, value⟩ := entry
    have := total_nodesOf_le value
    rw [occurrences, weightFields, total_append]
    split
    · rw [total_nil]; omega
    · omega

/-- The values that have positions are the values that were asked. -/
theorem map_snd_of_positioned? {offset? : Json → Option Int} {nodes : List Json}
    {pairs : List (Int × Json)} (h : positioned? offset? nodes = some pairs) :
    pairs.map Prod.snd = nodes := by
  induction nodes generalizing pairs with
  | nil => simp_all [positioned?]
  | cons node rest ih =>
    simp only [positioned?, List.mapM_cons, Option.bind_eq_bind, Option.bind_eq_some_iff,
      Option.map_eq_some_iff, Option.pure_def, Option.some.injEq] at h
    obtain ⟨_, ⟨n, _, rfl⟩, tail, ht, rfl⟩ := h
    simp [ih ht]

/-- Putting nodes in order only permutes them. -/
theorem inOrder_perm (offset? : Json → Option Int) (nodes : List Json) :
    (inOrder offset? nodes).Perm nodes := by
  unfold inOrder
  split
  · next pairs h =>
    rw [← map_snd_of_positioned? h]
    exact (List.mergeSort_perm pairs _).map Prod.snd
  · exact List.Perm.refl _

/-- The children of a node weigh less than the node. -/
theorem total_children_lt (offset? : Json → Option Int) (node : Json) :
    total weight (children offset? node) < node.weight := by
  cases node with
  | arr items =>
    have := total_filter_le weight isContainer items
    simp only [children, weight, weightItems_eq]
    omega
  | obj fields =>
    have := total_occurrences_le fields
    rw [children, total_perm weight (inOrder_perm offset? (occurrences fields)), weight]
    omega
  | _ => simp [children, weight]

/-! ## Declarations -/

/-- The specifiers of a declaration: the objects in the list under `specifiers`. -/
def specifiers (node : Json) : List Json := (node.field "specifiers").items.filter isObject

/-- How much of a module a specifier binds, by its type. -/
def reach (spec : Json) : Reach :=
  if spec.hasTypeIn ["ImportDefaultSpecifier", "ExportDefaultSpecifier"] then .defaultExport
  else if spec.hasTypeIn ["ImportNamespaceSpecifier", "ExportNamespaceSpecifier"] then
    .wholeModule
  else .oneName

end Json

/-- **A dialect whose trees are JSON documents.** -/
structure ObjectDialect where
  /-- The name of the dialect. -/
  name : String
  /-- The types that a root can have. -/
  rootTypes : List String
  /-- The document that a parser's answer wraps. -/
  unwrap : Json → Json
  /-- The program that a root of an accepted type stands for; none if it lacks one. -/
  program? : Json → Option Json
  /-- The types of nodes that can refer to another module. -/
  forms : List (String × Form)
  /-- The position of a node in the program. -/
  offset? : Json → Option Int
  /-- The name that an identifier or a string spells. -/
  spelledName : Json → Json
  /-- The text of a string literal. -/
  literal? : Json → Option Text
  /-- The node with the name that an export specifier takes from the other module. -/
  taken : Json → Json
  /-- The node with the name that an export specifier exports. -/
  exported : Json → Json
  /-- The collection of attributes of a declaration; `null` or another trivial value for none. -/
  attributes : Json → Json
  /-- The node is an import while the module runs. -/
  isDynamicImport : Json → Bool
  /-- The argument of such an import; `null` for none. -/
  importArgument : Json → Except Failure Json

namespace ObjectDialect

/-- The form of a node, by its type. -/
def form? (d : ObjectDialect) (node : Json) : Option Form :=
  (d.forms.find? fun entry => node.hasType entry.1).map Prod.snd

/-- The node at which a survey of a subject begins. -/
def root (d : ObjectDialect) (subject : Subject) : Except Failure Json :=
  match subject with
  | .json j =>
    let document := d.unwrap j
    if !document.isObject then
      .error (Dialect.unexpectedKind d.name "JSON object" (.json document))
    else if !document.hasTypeIn d.rootTypes then
      .error (Dialect.unexpectedRoot d.name (document.field "type"))
    else match d.program? document with
      | some program => .ok program
      | none => .error (Dialect.unsupported d.name (Text.ofString "File node without a Program"))
  | _ => .error (Dialect.unexpectedKind d.name "JSON object" subject)

/-- The text that the first attribute named `type` has for its value. -/
def typeAttribute? (d : ObjectDialect) (attributes : List Json) : Option Text :=
  match attributes.find? fun a => (d.spelledName (a.field "key")).isText "type" with
  | some a => d.literal? (a.field "value")
  | none => none

/-- **The type that a declaration asserts.** A collection that is not trivial has to be one that a
loop can visit. -/
def assertion? (d : ObjectDialect) (node : Json) : Except Failure (Option Text) :=
  let collection := d.attributes node
  if collection.isTrivial then .ok none
  else collection.elements.map d.typeAttribute?

/-- The questions of a survey, answered for the nodes of an object tree. -/
def toDialect (d : ObjectDialect) : Dialect Json where
  name := d.name
  root := d.root
  typeOf? := Json.nodeType?
  form? := d.form?
  children := Json.children d.offset?
  weight := Json.weight
  weight_children := Json.total_children_lt d.offset?
  specifiers := Json.specifiers
  reach := Json.reach
  importedName spec := .ok (d.spelledName (spec.field "imported"))
  takenName spec := .ok (d.spelledName (d.taken spec))
  localName spec := .ok (d.spelledName (spec.field "local"))
  exportedName spec := .ok (d.spelledName (d.exported spec))
  spelledName node := .ok (d.spelledName node)
  hasSource node := !(node.field "source").isNull
  literal? node := .ok (d.literal? node)
  source? node := .ok (d.literal? (node.field "source"))
  assertion? := d.assertion?
  isDynamicImport := d.isDynamicImport
  importArgument? node :=
    (d.importArgument node).map fun argument => if argument.isNull then none else some argument

end ObjectDialect

end ModuleLinks

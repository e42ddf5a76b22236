/-
What stands inside a document.

Many conditions on a tree speak of all objects in it, wherever they stand. A survey
visits only some of these, but it also looks at values that it does not visit: the
name of a specifier, the source of a declaration, the key of an attribute. So such a
condition is stated for every value inside the document, and the lemmas say that it
goes with each step that a question about a node can take.

Whether a condition holds everywhere in a given document can be computed.

In a parse tree all nodes are visited, so there a condition on all nodes is one on the nodes
that a survey visits.
-/
import Mathlib.Data.List.Basic
import ModuleLinks.Proofs.ChildOrder

set_option autoImplicit false

namespace ModuleLinks.Json

/-- **A value inside another one**: the other one itself, or inside an item or the
value of a field of it. -/
inductive Within (value : Json) : Json → Prop where
  | self : Within value value
  | item {items : List Json} {inner : Json} (hmem : inner ∈ items) (h : Within value inner) :
    Within value (.arr items)
  | field {fields : List (Text × Json)} {key : Text} {inner : Json}
    (hmem : (key, inner) ∈ fields) (h : Within value inner) : Within value (.obj fields)

/-- **The property holds of every value** inside the document. -/
def Everywhere (P : Json → Prop) (document : Json) : Prop :=
  ∀ value, value.Within document → P value

namespace Everywhere

variable {P : Json → Prop} {node : Json}

/-- What holds everywhere in a value holds of the value. -/
theorem here (h : node.Everywhere P) : P node := h node .self

theorem of_mem_items {items : List Json} (h : (Json.arr items).Everywhere P) {item : Json}
    (hmem : item ∈ items) : item.Everywhere P :=
  fun value hvalue => h value (.item hmem hvalue)

theorem of_mem_fields {fields : List (Text × Json)} (h : (Json.obj fields).Everywhere P)
    {field : Text × Json} (hmem : field ∈ fields) : field.2.Everywhere P :=
  fun value hvalue => h value (.field hmem hvalue)

/-- Inside a value that holds no others there is only that value. -/
theorem of_not_isContainer (hnode : node.isContainer = false) (h : P node) :
    node.Everywhere P := by
  intro value hvalue
  cases hvalue with
  | self => exact h
  | item _ _ => cases hnode
  | field _ _ => cases hnode

/-- **A condition on a list** is one on the list and everywhere in its items. -/
theorem arr_iff {items : List Json} :
    (Json.arr items).Everywhere P ↔ P (.arr items) ∧ ∀ item ∈ items, item.Everywhere P := by
  constructor
  · exact fun h => ⟨h.here, fun item hitem => h.of_mem_items hitem⟩
  · rintro ⟨hself, hitems⟩ value hvalue
    cases hvalue with
    | self => exact hself
    | item hmem hinner => exact hitems _ hmem value hinner

/-- **A condition on an object** is one on the object and everywhere in its fields. -/
theorem obj_iff {fields : List (Text × Json)} :
    (Json.obj fields).Everywhere P
      ↔ P (.obj fields) ∧ ∀ field ∈ fields, field.2.Everywhere P := by
  constructor
  · exact fun h => ⟨h.here, fun field hfield => h.of_mem_fields hfield⟩
  · rintro ⟨hself, hfields⟩ value hvalue
    cases hvalue with
    | self => exact hself
    | field hmem hinner => exact hfields _ hmem value hinner

/-! ## From a node to what is asked about it -/

/-- The value of a field is inside the object, or it is missing and counts as
`null`. -/
theorem field (h : node.Everywhere P) (hnull : P .null) (key : String) :
    (node.field key).Everywhere P := by
  unfold Json.field
  cases hfound : node.field? key with
  | none => exact of_not_isContainer rfl hnull
  | some value =>
    cases node with
    | obj fields =>
      obtain ⟨before, after, hsplit, _⟩ := List.lookup_eq_some_iff.1 hfound
      exact h.of_mem_fields (by rw [hsplit]; exact List.mem_append_right before List.mem_cons_self)
    | _ => cases hfound

/-- It goes from a declaration to its specifiers. -/
theorem of_mem_specifiers (h : node.Everywhere P) (hnull : P .null) {spec : Json}
    (hspec : spec ∈ node.specifiers) : spec.Everywhere P := by
  have hfield := h.field hnull "specifiers"
  have hitem := (List.mem_filter.1 hspec).1
  cases hlist : node.field "specifiers" with
  | arr items =>
    rw [hlist] at hfield hitem
    exact hfield.of_mem_items hitem
  | _ => rw [hlist] at hitem; cases hitem

/-- What a loop over a value visits is inside the value, or a text. -/
theorem of_mem_elements? (h : node.Everywhere P) (htext : ∀ t, P (.str t)) {elements : List Json}
    (helements : node.elements? = some elements) {element : Json} (hmem : element ∈ elements) :
    element.Everywhere P := by
  cases node with
  | arr items =>
    cases helements
    exact h.of_mem_items hmem
  | str t =>
    cases helements
    -- A loop over a text visits its characters, and one over an object its keys.
    obtain ⟨c, _, rfl⟩ := List.mem_map.1 hmem
    exact of_not_isContainer rfl (htext _)
  | obj fields =>
    cases helements
    obtain ⟨entry, _, rfl⟩ := List.mem_map.1 hmem
    exact of_not_isContainer rfl (htext _)
  | _ => cases helements

/-- It goes from a value to the nodes that the value holds. -/
theorem of_mem_nodesOf (h : node.Everywhere P) {inner : Json} (hmem : inner ∈ nodesOf node) :
    inner.Everywhere P := by
  cases node with
  | obj fields => rwa [List.mem_singleton.1 hmem]
  | arr items => exact h.of_mem_items (List.mem_filter.1 hmem).1
  | _ => cases hmem

/-- So it goes from the fields of an object to the child occurrences. -/
theorem of_mem_occurrences {fields : List (Text × Json)}
    (h : ∀ field ∈ fields, field.2.Everywhere P) {inner : Json}
    (hmem : inner ∈ occurrences fields) : inner.Everywhere P := by
  induction fields with
  | nil => cases hmem
  | cons field rest ih =>
    obtain ⟨key, value⟩ := field
    rw [List.forall_mem_cons] at h
    rw [occurrences, List.mem_append] at hmem
    rcases hmem with hhead | hrest
    · split at hhead
      · cases hhead
      · exact h.1.of_mem_nodesOf hhead
    · exact ih h.2 hrest

/-- **It goes from a node to its children**, whatever their order. -/
theorem of_mem_children (h : node.Everywhere P) {offset? : Json → Option Int} {child : Json}
    (hchild : child ∈ children offset? node) : child.Everywhere P := by
  cases node with
  | arr items => exact h.of_mem_items (List.mem_filter.1 hchild).1
  | obj fields =>
    rw [children, (inOrder_perm offset? _).mem_iff] at hchild
    exact of_mem_occurrences (obj_iff.1 h).2 hchild
  | _ => cases hchild

end Everywhere

/-! ## Computing it -/

mutual

/-- The check succeeds on every value inside the document. -/
def checks (check : Json → Bool) : Json → Bool
  | .arr items => check (.arr items) && checksItems check items
  | .obj fields => check (.obj fields) && checksFields check fields
  | j => check j

/-- The check for the items of a list. -/
def checksItems (check : Json → Bool) : List Json → Bool
  | [] => true
  | item :: rest => checks check item && checksItems check rest

/-- The check for the fields of an object. -/
def checksFields (check : Json → Bool) : List (Text × Json) → Bool
  | [] => true
  | (_, value) :: rest => checks check value && checksFields check rest

end

theorem checks_leaf (check : Json → Bool) {j : Json} (hj : j.isContainer = false) :
    j.checks check = true ↔ j.Everywhere (check · = true) := by
  have hself : j.checks check = check j := by
    cases j with
    | arr _ | obj _ => cases hj
    | _ => rw [checks] <;> exact nofun
  rw [hself]
  exact ⟨fun h => .of_not_isContainer hj h, fun h => h.here⟩

mutual

/-- **The check is exact**: it looks at every value inside the document. -/
theorem checks_iff (check : Json → Bool) :
    ∀ j : Json, j.checks check = true ↔ j.Everywhere (check · = true)
  | .arr items => by
    rw [checks, Bool.and_eq_true, checksItems_iff check items, Everywhere.arr_iff]
  | .obj fields => by
    rw [checks, Bool.and_eq_true, checksFields_iff check fields, Everywhere.obj_iff]
  | .null => checks_leaf check rfl
  | .bool _ => checks_leaf check rfl
  | .int _ => checks_leaf check rfl
  | .float _ => checks_leaf check rfl
  | .str _ => checks_leaf check rfl

theorem checksItems_iff (check : Json → Bool) :
    ∀ items : List Json,
      checksItems check items = true ↔ ∀ item ∈ items, item.Everywhere (check · = true)
  | [] => by simp [checksItems]
  | item :: rest => by
    rw [checksItems, Bool.and_eq_true, checks_iff check item, checksItems_iff check rest,
      List.forall_mem_cons]

theorem checksFields_iff (check : Json → Bool) :
    ∀ fields : List (Text × Json),
      checksFields check fields = true
        ↔ ∀ field ∈ fields, field.2.Everywhere (check · = true)
  | [] => by simp [checksFields]
  | (_, value) :: rest => by
    rw [checksFields, Bool.and_eq_true, checks_iff check value, checksFields_iff check rest,
      List.forall_mem_cons]

end

instance (P : Json → Prop) [DecidablePred P] (document : Json) :
    Decidable (document.Everywhere P) :=
  decidable_of_iff (document.checks fun value => decide (P value)) <| by
    rw [checks_iff]
    simp only [Everywhere, decide_eq_true_eq]

/-- A name, or no name: a text or `null`. -/
def isTextOrNull : Json → Bool
  | .str _ | .null => true
  | _ => false

end ModuleLinks.Json

namespace ModuleLinks.ParseNode

variable {node : ParseNode} {P : ParseNode → Prop}

/-! ## Parse trees -/

/-- **What holds of a node and of all nodes below it.** -/
def Throughout (P : ParseNode → Prop) (node : ParseNode) : Prop :=
  ∀ inner ∈ treeSitter.preorder node, P inner

/-- A condition on all nodes of a tree is one on the root and on all nodes below it. -/
theorem throughout_iff :
    Throughout P node ↔ P node ∧ ∀ child ∈ node.children, Throughout P child := by
  have hchildren : treeSitter.children node = node.children := rfl
  unfold Throughout
  rw [treeSitter.preorder_eq, hchildren, List.forall_mem_cons, List.forall_mem_flatMap]

theorem Throughout.self (h : Throughout P node) : P node := (throughout_iff.1 h).1

theorem Throughout.child (h : Throughout P node) : ∀ child ∈ node.children, Throughout P child :=
  (throughout_iff.1 h).2

/-- What holds throughout a tree goes on to the named children, of any type. -/
theorem Throughout.namedChild (h : Throughout P node) :
    ∀ child ∈ node.namedChildren, Throughout P child :=
  fun child hchild => h.child child (List.mem_filter.1 hchild).1

theorem Throughout.namedChildOf (h : Throughout P node) {type : String} :
    ∀ child ∈ node.namedChildrenOf type, Throughout P child :=
  fun child hchild => h.namedChild child (List.mem_filter.1 hchild).1

theorem Throughout.value (h : Throughout P node) {name : String} {value : ParseNode}
    (hvalue : node.child? name = some value) : Throughout P value :=
  h.child value (List.mem_of_find?_eq_some hvalue)

/-- And to every node that a survey visits. -/
theorem Throughout.mem_preorder (h : Throughout P node) :
    ∀ inner ∈ treeSitter.preorder node, Throughout P inner :=
  treeSitter.forall_mem_preorder (fun _ hinner => hinner.child) h

end ModuleLinks.ParseNode

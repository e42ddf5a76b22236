/-
The children of a node of an object tree.

The fields of an object come in any order, and so do the nodes below it. Where
all of them have positions they are sorted by position, and the sort must not
reorder what has the same position. This file says that in the form in which
the order of a whole tree needs it: beside its position every node carries its
place in the document, and the sorted nodes are strictly ascending in the pair
of the two.

It also says what the walk over an object tree meets: from an accepted root
only objects are reached, since the lists among the fields are not nodes
themselves.
-/
import Mathlib.Data.List.Nodup
import Mathlib.Tactic.SplitIfs
import ModuleLinks.Proofs.Preorder

set_option autoImplicit false

namespace ModuleLinks

namespace Json

/-! ## The sort -/

/-- **The order of siblings**, each given with its place in the document: by
position, and by place where the positions are the same. -/
def Earlier (offset? : Json → Option Int) (a b : Json × ℕ) : Prop :=
  ∃ p q, offset? a.1 = some p ∧ offset? b.1 = some q ∧ (p < q ∨ p = q ∧ a.2 < b.2)

theorem positioned?_eq {offset? : Json → Option Int} {nodes : List Json}
    (h : ∀ node ∈ nodes, (offset? node).isSome) :
    positioned? offset? nodes = some (nodes.map fun node => ((offset? node).getD 0, node)) := by
  induction nodes with
  | nil => rfl
  | cons node nodes ih =>
    obtain ⟨p, hp⟩ := Option.isSome_iff_exists.1 (h node List.mem_cons_self)
    have hrest := ih fun other hother => h other (List.mem_cons_of_mem node hother)
    rw [positioned?] at hrest
    simp [positioned?, List.mapM_cons, hp, hrest]

/-- The comparison of the sort, with ties broken by place, tells two places
apart. -/
theorem earlier_of_zipIdxLE {offset? : Json → Option Int} {a b : (Int × Json) × ℕ}
    (ha : offset? a.1.2 = some a.1.1) (hb : offset? b.1.2 = some b.1.1)
    (hle : List.zipIdxLE (fun x y : Int × Json => decide (x.1 ≤ y.1)) a b = true)
    (hne : a.2 ≠ b.2) : Earlier offset? (a.1.2, a.2) (b.1.2, b.2) := by
  refine ⟨a.1.1, b.1.1, ha, hb, ?_⟩
  show a.1.1 < b.1.1 ∨ a.1.1 = b.1.1 ∧ a.2 < b.2
  simp only [List.zipIdxLE, decide_eq_true_eq] at hle
  -- The places count only if each position is at most the other one.
  split_ifs at hle with hab hba
  · have hplace : a.2 ≤ b.2 := of_decide_eq_true hle
    omega
  · omega

/-- **The sort is stable**: where all nodes have positions, putting them in order
permutes them together with their places, and makes them ascend. -/
theorem inOrder_ascends {offset? : Json → Option Int} {nodes : List Json}
    (h : ∀ node ∈ nodes, (offset? node).isSome) :
    ∃ sorted : List (Json × ℕ), sorted.Perm nodes.zipIdx
      ∧ inOrder offset? nodes = sorted.map Prod.fst ∧ sorted.Pairwise (Earlier offset?) := by
  have hpairs := positioned?_eq h
  have hown : ∀ pair ∈ nodes.map fun node => ((offset? node).getD 0, node),
      offset? pair.2 = some pair.1 := by
    intro pair hpair
    obtain ⟨node, hnode, rfl⟩ := List.mem_map.1 hpair
    obtain ⟨p, hp⟩ := Option.isSome_iff_exists.1 (h node hnode)
    simp [hp]
  generalize (nodes.map fun node => ((offset? node).getD 0, node)) = pairs at hpairs hown
  let le : Int × Json → Int × Json → Bool := fun a b => decide (a.1 ≤ b.1)
  let drop : (Int × Json) × ℕ → Json × ℕ := fun a => (a.1.2, a.2)
  have hperm := List.mergeSort_perm pairs.zipIdx (List.zipIdxLE le)
  -- Sorting pairs with their places and then dropping the places is sorting the pairs.
  have hnodes : pairs.zipIdx.map drop = nodes.zipIdx := by
    rw [← map_snd_of_positioned? hpairs, List.zipIdx_map]
    rfl
  have hstable : (pairs.zipIdx.mergeSort (List.zipIdxLE le)).map (·.1) = pairs.mergeSort le :=
    List.mergeSort_zipIdx
  refine ⟨(pairs.zipIdx.mergeSort (List.zipIdxLE le)).map drop, ?_, ?_, ?_⟩
  · rw [← hnodes]
    exact hperm.map drop
  · rw [inOrder, hpairs, List.map_map]
    show (pairs.mergeSort le).map Prod.snd = _
    rw [← hstable, List.map_map]
    rfl
  · -- With the places as tie breakers the sorted list is ascending, and strictly so since no
    -- place comes twice.
    have hsorted : (pairs.zipIdx.mergeSort (List.zipIdxLE le)).Pairwise
        (List.zipIdxLE le · ·) := by
      apply List.pairwise_mergeSort
      · exact List.zipIdxLE_trans fun a b c => by simp only [le, decide_eq_true_eq]; omega
      · exact List.zipIdxLE_total fun a b => by
          simp only [le, Bool.or_eq_true, decide_eq_true_eq]; omega
    have hplaces : (pairs.zipIdx.mergeSort (List.zipIdxLE le)).Pairwise (·.2 ≠ ·.2) := by
      have hnodup : (pairs.zipIdx.map Prod.snd).Nodup := by
        rw [List.zipIdx_map_snd]
        exact List.nodup_range'
      exact List.pairwise_map.1 ((hperm.map Prod.snd).nodup_iff.2 hnodup)
    have hmem : ∀ a ∈ pairs.zipIdx.mergeSort (List.zipIdxLE le), a.1 ∈ pairs := fun a ha =>
      List.fst_mem_of_mem_zipIdx (List.mem_mergeSort.1 ha)
    rw [List.pairwise_map]
    exact (hsorted.and hplaces).imp_of_mem fun ha hb hab =>
      earlier_of_zipIdxLE (hown _ (hmem _ ha)) (hown _ (hmem _ hb)) hab.1 hab.2

/-- Two nodes with positions change places if the second begins before the
first. -/
theorem inOrder_pair {offset? : Json → Option Int} {a b : Json} {p q : Int}
    (ha : offset? a = some p) (hb : offset? b = some q) :
    inOrder offset? [a, b] = if p ≤ q then [a, b] else [b, a] := by
  simp only [inOrder, positioned?, List.mapM_cons, ha, hb]
  by_cases h : p ≤ q
  · simp [List.mergeSort, List.MergeSort.Internal.splitInTwo, h]
  · simp [List.mergeSort, List.MergeSort.Internal.splitInTwo, h]

theorem offset?_of_mem_positioned? {offset? : Json → Option Int} {nodes : List Json}
    {pairs : List (Int × Json)} (h : positioned? offset? nodes = some pairs) :
    ∀ pair ∈ pairs, offset? pair.2 = some pair.1 := by
  induction nodes generalizing pairs with
  | nil =>
    cases h
    exact nofun
  | cons node rest ih =>
    simp only [positioned?, List.mapM_cons, Option.bind_eq_bind, Option.bind_eq_some_iff,
      Option.map_eq_some_iff, Option.pure_def, Option.some.injEq] at h
    obtain ⟨_, ⟨n, hn, rfl⟩, tail, htail, rfl⟩ := h
    exact List.forall_mem_cons.2 ⟨hn, ih htail⟩

/-- Nodes whose positions ascend stay as they are. -/
theorem inOrder_of_pairwise {offset? : Json → Option Int} {nodes : List Json}
    (h : nodes.Pairwise fun a b => ∀ p ∈ offset? a, ∀ q ∈ offset? b, p ≤ q) :
    inOrder offset? nodes = nodes := by
  unfold inOrder
  split
  · next pairs hpairs =>
    have hown := offset?_of_mem_positioned? hpairs
    rw [← map_snd_of_positioned? hpairs, List.pairwise_map] at h
    -- Where all have positions the pairs are sorted already; where one has none nothing is done.
    have hsorted : pairs.Pairwise fun a b => decide (a.1 ≤ b.1) = true := by
      apply h.imp_of_mem
      intro a b ha hb hab
      exact decide_eq_true (hab a.1 (hown a ha) b.1 (hown b hb))
    rw [List.mergeSort_of_pairwise hsorted]
    exact map_snd_of_positioned? hpairs
  · rfl

/-- Nodes with the same positions are put in the same order. -/
theorem inOrder_map {offset? : Json → Option Int} {f : Json → Json}
    (hf : ∀ node, offset? (f node) = offset? node) (nodes : List Json) :
    inOrder offset? (nodes.map f) = (inOrder offset? nodes).map f := by
  -- The positions are those of before, since the map keeps each of them.
  have hpositioned : positioned? offset? (nodes.map f)
      = (positioned? offset? nodes).map fun pairs => pairs.map fun pair => (pair.1, f pair.2) := by
    induction nodes with
    | nil => rfl
    | cons node rest ih =>
      simp only [positioned?] at ih
      simp only [positioned?, List.map_cons, List.mapM_cons, hf, ih]
      cases offset? node with
      | none => rfl
      | some p => cases rest.mapM fun node => (offset? node).map (·, node) <;> rfl
  rw [inOrder, inOrder, hpositioned]
  cases positioned? offset? nodes with
  | none => rfl
  | some pairs =>
    show ((pairs.map _).mergeSort _).map Prod.snd = ((pairs.mergeSort _).map Prod.snd).map f
    rw [← List.map_mergeSort (r := fun a b => decide (a.1 ≤ b.1)) fun a _ b _ => rfl,
      List.map_map, List.map_map]
    rfl

instance (offset? : Json → Option Int) (a b : Json × ℕ) : Decidable (Earlier offset? a b) :=
  match ha : offset? a.1, hb : offset? b.1 with
  | some p, some q =>
    decidable_of_iff (p < q ∨ p = q ∧ a.2 < b.2) (by simp [Earlier, ha, hb])
  | none, _ => isFalse (by simp [Earlier, ha])
  | some _, none => isFalse (by simp [Earlier, hb])

/-! ## The nodes in fields -/

/-- The child occurrences as one expression: field by field, and metadata passed over. -/
theorem occurrences_eq_flatMap (fields : List (Text × Json)) :
    occurrences fields = fields.flatMap fun field =>
      if field.1.isOneOf metadataKeys then [] else nodesOf field.2 := by
  induction fields with
  | nil => rfl
  | cons field rest ih => rw [occurrences, List.flatMap_cons, ih]

theorem nodesOf_of_not_isContainer {value : Json} (h : value.isContainer = false) :
    nodesOf value = [] := by
  cases value <;> first | rfl | cases h

/-- Fields hold no nodes if only metadata are lists or objects. -/
theorem occurrences_eq_nil {fields : List (Text × Json)}
    (h : ∀ field ∈ fields, field.2.isContainer = true → field.1.isOneOf metadataKeys = true) :
    occurrences fields = [] := by
  rw [occurrences_eq_flatMap, List.flatMap_eq_nil_iff]
  intro field hfield
  by_cases hcontainer : field.2.isContainer = true
  · rw [if_pos (h field hfield hcontainer)]
  · rw [nodesOf_of_not_isContainer (by simpa using hcontainer), ite_self]

/-- Occurrences in fields behind others come behind theirs. -/
theorem occurrences_append (fields others : List (Text × Json)) :
    occurrences (fields ++ others) = occurrences fields ++ occurrences others := by
  simp only [occurrences_eq_flatMap, List.flatMap_append]

/-- Fields in another order have the same occurrences in another order. -/
theorem occurrences_perm {fields fields' : List (Text × Json)} (h : fields.Perm fields') :
    (occurrences fields).Perm (occurrences fields') := by
  rw [occurrences_eq_flatMap, occurrences_eq_flatMap]
  exact h.flatMap_right _

/-! ## The nodes that are reached -/

theorem hasType_iff (node : Json) (type : String) :
    node.hasType type = true ↔ node.nodeType? = some (Text.ofString type) := by
  unfold hasType
  cases node.nodeType? <;> simp

/-- Only an object has a type. -/
theorem isObject_of_hasType {node : Json} {type : String} (h : node.hasType type = true) :
    node.isObject = true := by
  rw [hasType_iff] at h
  cases node with
  | obj fields => rfl
  | _ => simp [nodeType?, field, field?, text?] at h

theorem isObject_of_mem_nodesOf {value node : Json} (h : node ∈ nodesOf value) :
    node.isObject = true := by
  cases value with
  | obj fields => rw [List.mem_singleton.1 h]; rfl
  | arr items => exact (List.mem_filter.1 h).2
  | _ => simp [nodesOf] at h

/-- Every child occurrence is an object. -/
theorem isObject_of_mem_occurrences {fields : List (Text × Json)} {node : Json}
    (h : node ∈ occurrences fields) : node.isObject = true := by
  induction fields with
  | nil => simp [occurrences] at h
  | cons entry rest ih =>
    rw [occurrences, List.mem_append] at h
    rcases h with hhead | hrest
    · split at hhead
      · simp at hhead
      · exact isObject_of_mem_nodesOf hhead
    · exact ih hrest

/-- The children of an object are objects: lists among the fields are opened. -/
theorem isObject_of_mem_children {offset? : Json → Option Int} {node child : Json}
    (hnode : node.isObject = true) (h : child ∈ children offset? node) :
    child.isObject = true := by
  cases node with
  | obj fields =>
    rw [children, (inOrder_perm offset? _).mem_iff] at h
    exact isObject_of_mem_occurrences h
  | _ => simp [isObject] at hnode

end Json

namespace ObjectDialect

/-- **A survey visits objects only**, from an object on. -/
theorem isObject_of_mem_preorder (d : ObjectDialect) {root : Json} (hroot : root.isObject = true) :
    ∀ node ∈ d.toDialect.preorder root, node.isObject = true :=
  d.toDialect.forall_mem_preorder
    (fun _ hnode _ hchild => Json.isObject_of_mem_children hnode hchild) hroot

/-- An accepted root stands for a document of an accepted type. -/
theorem exists_document_of_root {d : ObjectDialect} {subject : Subject} {root : Json}
    (h : d.root subject = .ok root) :
    ∃ document : Json, document.hasTypeIn d.rootTypes = true ∧ d.program? document = some root := by
  unfold ObjectDialect.root at h
  split at h
  · next j =>
    -- A document is unwrapped, then its type is looked at, and then a program is taken out of it.
    simp only at h
    split_ifs at h with hobject htype
    · refine ⟨d.unwrap j, by simpa using htype, ?_⟩
      split at h
      · next program hprogram => rw [hprogram, Except.ok.inj h]
      · cases h
  · cases h

end ObjectDialect

/-- The types of programs, which are none of the types that refer to other
modules. -/
def programTypes : List String := ["Program", "Module", "Script"]

/-- A root that is accepted has one of the types of a program. -/
theorem babel_hasTypeIn_of_root {subject : Subject} {root : Json}
    (h : babel.root subject = .ok root) : root.hasTypeIn programTypes = true := by
  obtain ⟨document, htype, hprogram⟩ := ObjectDialect.exists_document_of_root h
  simp only [babel, Babel.program?] at htype hprogram
  split_ifs at hprogram with hfile hinner
  · rw [← Option.some.inj hprogram]
    simp [Json.hasTypeIn, programTypes, hinner]
  · rw [← Option.some.inj hprogram]
    simpa [Json.hasTypeIn, programTypes, hfile] using Or.inl htype

theorem oxc_hasTypeIn_of_root {subject : Subject} {root : Json}
    (h : oxc.root subject = .ok root) : root.hasTypeIn programTypes = true := by
  obtain ⟨document, htype, hprogram⟩ := ObjectDialect.exists_document_of_root h
  rw [← Option.some.inj hprogram]
  simp_all [Json.hasTypeIn, programTypes, oxc]

theorem swc_hasTypeIn_of_root {subject : Subject} {root : Json}
    (h : swc.root subject = .ok root) : root.hasTypeIn programTypes = true := by
  obtain ⟨document, htype, hprogram⟩ := ObjectDialect.exists_document_of_root h
  rw [← Option.some.inj hprogram]
  simp only [Json.hasTypeIn, programTypes, swc, List.any_cons, List.any_nil, Bool.or_eq_true]
    at htype ⊢
  exact Or.inr htype

namespace ObjectDialect

theorem isObject_of_hasTypeIn {node : Json} {types : List String}
    (h : node.hasTypeIn types = true) : node.isObject = true := by
  obtain ⟨_, _, htype⟩ := List.any_eq_true.1 h
  exact Json.isObject_of_hasType htype

/-- A node whose type is listed for no form has none. -/
theorem form?_of_hasTypeIn {d : ObjectDialect} {node : Json} {types : List String}
    (h : node.hasTypeIn types = true) (hforms : ∀ type ∈ types, ∀ entry ∈ d.forms, type ≠ entry.1) :
    d.form? node = none := by
  obtain ⟨type, hmem, htype⟩ := List.any_eq_true.1 h
  rw [Json.hasType_iff] at htype
  rw [form?, Option.map_eq_none_iff, List.find?_eq_none]
  intro entry hentry hhas
  rw [Json.hasType_iff, htype, Option.some.injEq, Text.ofString_inj] at hhas
  exact hforms type hmem entry hentry hhas

end ObjectDialect

/-- The root of a parse tree is that of a program. -/
theorem treeSitter_hasType_of_root {subject : Subject} {root : ParseNode}
    (h : treeSitter.root subject = .ok root) : root.hasType "program" = true := by
  simp only [treeSitter, TreeSitter.root] at h
  split at h
  · split_ifs at h with htype
    rwa [← Except.ok.inj h]
  · split_ifs at h with htype
    rwa [← Except.ok.inj h]
  · cases h

namespace DialectName

/-- **An accepted root has no form**: it makes no link and no warning. -/
theorem form?_of_root {name : DialectName} {subject : Subject} {root : name.Node}
    (h : name.dialect.root subject = .ok root) : name.dialect.form? root = none := by
  cases name with
  | babel => exact ObjectDialect.form?_of_hasTypeIn (babel_hasTypeIn_of_root h) (by decide)
  | swc => exact ObjectDialect.form?_of_hasTypeIn (swc_hasTypeIn_of_root h) (by decide)
  | oxc => exact ObjectDialect.form?_of_hasTypeIn (oxc_hasTypeIn_of_root h) (by decide)
  | treeSitter =>
    have htype := treeSitter_hasType_of_root h
    rw [ParseNode.hasType, Text.is_iff] at htype
    show TreeSitter.form? root = none
    simp [TreeSitter.form?, ParseNode.hasType, htype]

end DialectName

end ModuleLinks

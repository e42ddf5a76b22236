/-
Siblings in order.

The nodes below an object occur in its fields, one after the other, and a list among the
fields holds several of them. Children are these occurrences, no more and no fewer: two that
look the same are two children. Their order is that of a sort by position which leaves
occurrences at the same position as they are, and where a single one has no position nothing
is sorted at all.

What is said here of the sort determines it. A list is known from its members, if they
ascend and if it is known how those at each position stand among themselves. So sorting once
more changes nothing, and neither does putting the children into a new node.

Main statement: `children_stablySorted`.
-/
import ModuleLinks.Proofs.ObjectEncoding
import ModuleLinks.Proofs.SourceOrder

set_option autoImplicit false

namespace ModuleLinks

namespace Json

variable {offset? : Json → Option Int} {nodes : List Json}

/-! ## The sort -/

/-- Every one of the nodes has a position. -/
def AllPlaced (offset? : Json → Option Int) (nodes : List Json) : Prop :=
  ∀ node ∈ nodes, (offset? node).isSome

/-- **A stable sort by position.** It is none where a node has no position. -/
structure StablySorted (offset? : Json → Option Int) (nodes sorted : List Json) : Prop where
  perm : sorted.Perm nodes
  ascends : AllPlaced offset? nodes → sorted.Pairwise (Dialect.NotAfter offset?)
  /-- The nodes at a position stand in the same order as before. -/
  stable : AllPlaced offset? nodes → ∀ position : Int,
    sorted.filter (offset? · = some position) = nodes.filter (offset? · = some position)
  unplaced : ¬AllPlaced offset? nodes → sorted = nodes

/-- Nodes are left alone if one of them has no position. -/
theorem inOrder_of_not_allPlaced (h : ¬AllPlaced offset? nodes) : inOrder offset? nodes = nodes := by
  unfold inOrder
  split
  · next pairs hpairs =>
    -- The pairs would give every node its position.
    refine absurd ?_ h
    intro node hnode
    rw [← map_snd_of_positioned? hpairs] at hnode
    obtain ⟨pair, hpair, rfl⟩ := List.mem_map.1 hnode
    exact Option.isSome_of_eq_some (offset?_of_mem_positioned? hpairs pair hpair)
  · rfl

/-- Nodes with positions ascend once they are in order. -/
theorem pairwise_notAfter_inOrder (h : AllPlaced offset? nodes) :
    (inOrder offset? nodes).Pairwise (Dialect.NotAfter offset?) := by
  obtain ⟨sorted, -, hsorted, hascends⟩ := inOrder_ascends h
  rw [hsorted, List.pairwise_map]
  apply hascends.imp
  rintro a b ⟨p, q, hp, hq, hle⟩ m hm n hn
  rw [hp] at hm
  rw [hq] at hn
  obtain rfl := Option.some.inj hm
  obtain rfl := Option.some.inj hn
  omega

/-- **The nodes at one position keep their order.** Given with their places in the document, both
those of the sorted list and those of the list before ascend by place, and there is one way to
do so. -/
theorem filter_inOrder (h : AllPlaced offset? nodes) (position : Int) :
    (inOrder offset? nodes).filter (offset? · = some position)
      = nodes.filter (offset? · = some position) := by
  obtain ⟨sorted, hperm, hsorted, hascends⟩ := inOrder_ascends h
  let here : Json × ℕ → Bool := fun placed => decide (offset? placed.1 = some position)
  -- Each node is taken with its place; at one position the places ascend in both lists.
  have hbefore : (nodes.zipIdx.filter here).Pairwise (·.2 < ·.2) :=
    (Dialect.pairwise_snd_zipIdx nodes).filter here
  have hafter : (sorted.filter here).Pairwise (·.2 < ·.2) := by
    apply (hascends.filter here).imp_of_mem
    rintro a b ha hb ⟨p, q, hp, hq, hle⟩
    have hatA : offset? a.1 = some position := of_decide_eq_true (List.mem_filter.1 ha).2
    have hatB : offset? b.1 = some position := of_decide_eq_true (List.mem_filter.1 hb).2
    have hpq : p = q := Option.some.inj (by rw [← hp, ← hq, hatA, hatB])
    omega
  have hsame : sorted.filter here = nodes.zipIdx.filter here := by
    apply (hperm.filter here).eq_of_pairwise _ hafter hbefore
    intro a b _ _ hab hba
    omega
  have hnodes : nodes = nodes.zipIdx.map Prod.fst := (List.zipIdx_map_fst 0 nodes).symm
  calc (inOrder offset? nodes).filter (offset? · = some position)
      = (sorted.filter here).map Prod.fst := by rw [hsorted, List.filter_map]; rfl
    _ = (nodes.zipIdx.filter here).map Prod.fst := by rw [hsame]
    _ = (nodes.zipIdx.map Prod.fst).filter (offset? · = some position) := by
      rw [List.filter_map]; rfl
    _ = nodes.filter (offset? · = some position) := by rw [← hnodes]

/-- **Putting nodes in order is a stable sort**, or leaves them alone. -/
theorem inOrder_stablySorted (offset? : Json → Option Int) (nodes : List Json) :
    StablySorted offset? nodes (inOrder offset? nodes) where
  perm := inOrder_perm offset? nodes
  ascends := pairwise_notAfter_inOrder
  stable := filter_inOrder
  unplaced := inOrder_of_not_allPlaced

/-! ## One way to sort -/

/-- Lists with the same nodes at each position have the same nodes that are placed. -/
theorem mem_of_filter_eq {left right : List Json} {node : Json} {p : Int}
    (h : ∀ position : Int, left.filter (offset? · = some position)
      = right.filter (offset? · = some position))
    (hp : offset? node = some p) (hnode : node ∈ left) : node ∈ right := by
  have hhere : node ∈ left.filter (offset? · = some p) :=
    List.mem_filter.2 ⟨hnode, decide_eq_true hp⟩
  rw [h p] at hhere
  exact (List.mem_filter.1 hhere).1

/-- What two lists have behind the same first node agrees at every position, if the lists do. -/
theorem filter_eq_of_cons {node : Json} {left right : List Json}
    (h : ∀ position : Int, (node :: left).filter (offset? · = some position)
      = (node :: right).filter (offset? · = some position)) (position : Int) :
    left.filter (offset? · = some position) = right.filter (offset? · = some position) := by
  have hall := h position
  rw [List.filter_cons, List.filter_cons] at hall
  by_cases hhere : offset? node = some position
  · rw [if_pos (decide_eq_true hhere), if_pos (decide_eq_true hhere)] at hall
    exact (List.cons.inj hall).2
  · rwa [if_neg (by simpa using hhere), if_neg (by simpa using hhere)] at hall

/-- The first of ascending nodes begins no later than any of them. -/
theorem le_of_pairwise {first node : Json} {rest : List Json} {p q : Int}
    (h : (first :: rest).Pairwise (Dialect.NotAfter offset?)) (hp : offset? first = some p)
    (hnode : node ∈ first :: rest) (hq : offset? node = some q) : p ≤ q := by
  rcases List.mem_cons.1 hnode with rfl | hrest
  · have hpq : p = q := Option.some.inj (hp.symm.trans hq)
    omega
  · exact List.rel_of_pairwise_cons h hrest p hp q hq

/-- **Ascending nodes are determined by those at each position.** The first nodes of two such lists
begin nowhere after one another, so they are at one position, where both come first. -/
theorem eq_of_filter_eq {left right : List Json} (hleft : AllPlaced offset? left)
    (hright : AllPlaced offset? right) (hascends : left.Pairwise (Dialect.NotAfter offset?))
    (hascends' : right.Pairwise (Dialect.NotAfter offset?))
    (h : ∀ position : Int, left.filter (offset? · = some position)
      = right.filter (offset? · = some position)) : left = right := by
  have hback := fun position => (h position).symm
  induction left generalizing right with
  | nil =>
    cases right with
    | nil => rfl
    | cons b right =>
      obtain ⟨q, hq⟩ := Option.isSome_iff_exists.1 (hright b List.mem_cons_self)
      exact absurd (mem_of_filter_eq hback hq List.mem_cons_self) List.not_mem_nil
  | cons a left ih =>
    obtain ⟨p, hp⟩ := Option.isSome_iff_exists.1 (hleft a List.mem_cons_self)
    cases right with
    | nil => exact absurd (mem_of_filter_eq h hp List.mem_cons_self) List.not_mem_nil
    | cons b right =>
      obtain ⟨q, hq⟩ := Option.isSome_iff_exists.1 (hright b List.mem_cons_self)
      -- Each of the first nodes occurs in the other list, so neither begins before the other.
      have hpq : p ≤ q :=
        le_of_pairwise hascends hp (mem_of_filter_eq hback hq List.mem_cons_self) hq
      have hqp : q ≤ p :=
        le_of_pairwise hascends' hq (mem_of_filter_eq h hp List.mem_cons_self) hp
      obtain rfl : p = q := Int.le_antisymm hpq hqp
      have hfirst : a = b := by
        have hhere := h p
        rw [List.filter_cons, List.filter_cons, if_pos (decide_eq_true hp),
          if_pos (decide_eq_true hq)] at hhere
        exact (List.cons.inj hhere).1
      subst hfirst
      have hrest := filter_eq_of_cons h
      rw [ih (List.forall_mem_cons.1 hleft).2 (List.forall_mem_cons.1 hright).2 hascends.tail
        hascends'.tail hrest fun position => (hrest position).symm]

/-- **There is one stable sort.** -/
theorem StablySorted.unique {left right : List Json} (h : StablySorted offset? nodes left)
    (h' : StablySorted offset? nodes right) : left = right := by
  by_cases hplaced : AllPlaced offset? nodes
  · apply eq_of_filter_eq _ _ (h.ascends hplaced) (h'.ascends hplaced)
    · intro position
      rw [h.stable hplaced, h'.stable hplaced]
    · exact fun node hnode => hplaced node (h.perm.mem_iff.1 hnode)
    · exact fun node hnode => hplaced node (h'.perm.mem_iff.1 hnode)
  · rw [h.unplaced hplaced, h'.unplaced hplaced]

/-- **What is sorted is the sort of itself.** -/
theorem StablySorted.self {sorted : List Json} (h : StablySorted offset? nodes sorted) :
    StablySorted offset? sorted sorted where
  perm := .refl sorted
  ascends hplaced := h.ascends fun node hnode => hplaced node (h.perm.mem_iff.2 hnode)
  stable _ _ := rfl
  unplaced _ := rfl

/-! ## Occurrences -/

/-- **The nodes that occur in the fields of an object**, as they are written: the value of a field
if it is an object, and the objects in it if it is a list. Fields that describe the node have no
part in it. -/
def nodesIn (fields : List (Text × Json)) : List Json :=
  (fields.filter fun field => !field.1.isOneOf metadataKeys).flatMap fun field =>
    match field.2 with
    | .obj inner => [.obj inner]
    | .arr items => items.filter isObject
    | _ => []

/-- The occurrences in fields are the nodes in them, both counted field by field. -/
theorem occurrences_eq_nodesIn (fields : List (Text × Json)) :
    occurrences fields = nodesIn fields := by
  induction fields with
  | nil => rfl
  | cons field rest ih =>
    rw [occurrences, ih, nodesIn, nodesIn]
    by_cases hkey : field.1.isOneOf metadataKeys = true
    · rw [if_pos hkey, List.filter_cons_of_neg (by simp [hkey]), List.nil_append]
    · rw [if_neg hkey, List.filter_cons_of_pos (by simpa using hkey), List.flatMap_cons]
      rfl

/-- **A list of objects between fields without nodes** holds all nodes there are. -/
theorem nodesIn_list {before after : List (Text × Json)} {key : Text} {items : List Json}
    (hkey : key.isOneOf metadataKeys = false) (hbefore : nodesIn before = [])
    (hafter : nodesIn after = []) (hitems : ∀ item ∈ items, item.isObject = true) :
    nodesIn (before ++ (key, .arr items) :: after) = items := by
  rw [← occurrences_eq_nodesIn] at hbefore hafter ⊢
  rw [occurrences_append, hbefore, occurrences, hafter, hkey, List.append_nil]
  exact List.filter_eq_self.2 hitems

end Json

namespace ObjectParser

open Json

/-- The children of an object are the nodes in its fields, in order. -/
theorem children_obj (p : ObjectParser) (fields : List (Text × Json)) :
    p.dialect.toDialect.children (.obj fields) = inOrder p.dialect.offset? (nodesIn fields) := by
  rw [← occurrences_eq_nodesIn]
  rfl

theorem stablySorted_children (p : ObjectParser) (fields : List (Text × Json)) :
    StablySorted p.dialect.offset? (nodesIn fields)
      (p.dialect.toDialect.children (.obj fields)) := by
  rw [children_obj]
  exact inOrder_stablySorted p.dialect.offset? (nodesIn fields)

/-- **The children of an object are the nodes that occur in its fields**, in the stable sort by
position. As the only list of nodes in a new object they are its children in the same order. -/
theorem children_stablySorted (p : ObjectParser) (fields : List (Text × Json)) :
    StablySorted p.dialect.offset? (nodesIn fields) (p.dialect.toDialect.children (.obj fields))
      ∧ ∀ (key : Text) (before after : List (Text × Json)), key.isOneOf metadataKeys = false →
        nodesIn before = [] → nodesIn after = [] →
        p.dialect.toDialect.children
            (.obj (before ++ (key, .arr (p.dialect.toDialect.children (.obj fields))) :: after))
          = p.dialect.toDialect.children (.obj fields) := by
  have hsorted := p.stablySorted_children fields
  refine ⟨hsorted, ?_⟩
  intro key before after hkey hbefore hafter
  have hobjects : ∀ child ∈ p.dialect.toDialect.children (.obj fields), child.isObject = true := by
    have hobject : (Json.obj fields).isObject = true := rfl
    exact fun child hchild => isObject_of_mem_children hobject hchild
  -- Written as one list the children are sorted once more, and they are sorted already.
  have hagain := p.stablySorted_children
    (before ++ (key, .arr (p.dialect.toDialect.children (.obj fields))) :: after)
  rw [nodesIn_list hkey hbefore hafter hobjects] at hagain
  exact hagain.unique hsorted.self

/-- A node that begins at position five. -/
def laterNode : Json := .obj [(Text.ofString "start", .int 5)]

/-- A node with a truth value for its position, which counts as one. -/
def earlierNode : Json := .obj [(Text.ofString "start", .bool true)]

/-- Fields in which the later node is written first, and the earlier one in a list with a number. -/
def unsortedFields : List (Text × Json) :=
  [(Text.ofString "test", laterNode), (Text.ofString "body", .arr [.int 7, earlierNode])]

theorem children_unsortedFields :
    ObjectParser.babel.dialect.toDialect.children (.obj unsortedFields)
      = [earlierNode, laterNode] := by
  have hlater : ModuleLinks.babel.offset? laterNode = some 5 := rfl
  have hearlier : ModuleLinks.babel.offset? earlierNode = some 1 := rfl
  rw [children_obj]
  show inOrder ModuleLinks.babel.offset? [laterNode, earlierNode] = _
  rw [inOrder_pair hlater hearlier, if_neg (by decide)]

/-- The later node with a span. What it has for a start beside the span does not count. -/
def laterSpanned : Json :=
  .obj [(Text.ofString "start", .int 0), (Text.ofString "span", .obj [(Text.ofString "start", .int 5)])]

/-- The earlier node with a span. -/
def earlierSpanned : Json := .obj [(Text.ofString "span", .obj [(Text.ofString "start", .bool true)])]

/-- Fields with the two, the later one first. -/
def unsortedSpanned : List (Text × Json) :=
  [(Text.ofString "test", laterSpanned), (Text.ofString "body", .arr [.int 7, earlierSpanned])]

theorem children_unsortedSpanned :
    ObjectParser.swc.dialect.toDialect.children (.obj unsortedSpanned)
      = [earlierSpanned, laterSpanned] := by
  have hlater : ModuleLinks.swc.offset? laterSpanned = some 5 := rfl
  have hearlier : ModuleLinks.swc.offset? earlierSpanned = some 1 := rfl
  rw [children_obj]
  show inOrder ModuleLinks.swc.offset? [laterSpanned, earlierSpanned] = _
  rw [inOrder_pair hlater hearlier, if_neg (by decide)]

theorem children_stablySorted_unsortedFields :
    StablySorted ModuleLinks.babel.offset? [laterNode, earlierNode] [earlierNode, laterNode]
      ∧ (Text.ofString "body").isOneOf metadataKeys = false
      ∧ nodesIn [(Text.ofString "type", .ofString "Program")] = []
      ∧ nodesIn [(Text.ofString "loc", laterNode)] = []
      ∧ ObjectParser.babel.dialect.toDialect.children
          (.obj [(Text.ofString "type", .ofString "Program"),
            (Text.ofString "body", .arr [earlierNode, laterNode]), (Text.ofString "loc", laterNode)])
        = [earlierNode, laterNode]
      ∧ StablySorted ModuleLinks.swc.offset? [laterSpanned, earlierSpanned]
        [earlierSpanned, laterSpanned]
      ∧ ObjectParser.swc.dialect.toDialect.children
          (.obj [(Text.ofString "type", .ofString "Module"),
            (Text.ofString "body", .arr [earlierSpanned, laterSpanned]),
            (Text.ofString "span", laterSpanned)])
        = [earlierSpanned, laterSpanned] := by
  have h := children_stablySorted .babel unsortedFields
  rw [children_unsortedFields] at h
  have hspanned := children_stablySorted .swc unsortedSpanned
  rw [children_unsortedSpanned] at hspanned
  exact ⟨h.1, by decide, rfl, by decide, h.2 _ [_] [_] (by decide) rfl (by decide), hspanned.1,
    hspanned.2 _ [_] [_] (by decide) rfl (by decide)⟩

end ObjectParser

end ModuleLinks

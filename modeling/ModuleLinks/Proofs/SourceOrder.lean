/-
Links in the order of the program.

A survey lists the links of a tree in preorder. This is the order of the program
where the positions of the nodes fit the tree: a node begins before what is
below it, and of two siblings the one that comes first ends before the other
begins. For the object dialects "comes first" is a matter of positions and only
for equal positions a matter of the document, so the fields of an object may
stand in any order. A parse tree is taken as the library delivers it, and its
children come first as they are listed.

Main statement: `offsets_ascend`. The nodes that **speak**, that is, those whose
visit puts out a link or a warning, have ascending positions.
-/
import Mathlib.Data.List.TakeWhile
import ModuleLinks.Proofs.ChildOrder

set_option autoImplicit false

namespace ModuleLinks

namespace Dialect

variable {ν : Type}

/-! ## The nodes that speak -/

/-- The visit of the node puts out a link or a warning. -/
def speaks (d : Dialect ν) (node : ν) : Bool :=
  !(d.visitLinks node).isEmpty || !(d.visitWarnings node).isEmpty

/-- **The nodes that speak** in the survey of a tree: of the nodes in preorder,
as far as the survey gets, those that put something out. -/
def speakers (d : Dialect ν) (root : ν) : List ν :=
  ((d.preorder root).takeWhile d.passes).filter d.speaks

/-- All that is put out comes from the nodes that speak. -/
theorem flatMap_filter_speaks {α : Type} (d : Dialect ν) (out : ν → List α)
    (h : ∀ node, d.speaks node = false → out node = []) (nodes : List ν) :
    (nodes.filter d.speaks).flatMap out = nodes.flatMap out := by
  induction nodes with
  | nil => rfl
  | cons node nodes ih =>
    cases hs : d.speaks node with
    | true => rw [List.filter_cons_of_pos hs, List.flatMap_cons, List.flatMap_cons, ih]
    | false =>
      rw [List.filter_cons_of_neg (by simp [hs]), List.flatMap_cons, h node hs, ih,
        List.nil_append]

/-- The links of some nodes are those of the nodes that speak among them. -/
theorem flatMap_visitLinks_filter (d : Dialect ν) (nodes : List ν) :
    (nodes.filter d.speaks).flatMap d.visitLinks = nodes.flatMap d.visitLinks :=
  d.flatMap_filter_speaks d.visitLinks (fun node hs => by simp_all [speaks]) nodes

theorem flatMap_visitWarnings_filter (d : Dialect ν) (nodes : List ν) :
    (nodes.filter d.speaks).flatMap d.visitWarnings = nodes.flatMap d.visitWarnings :=
  d.flatMap_filter_speaks d.visitWarnings (fun node hs => by simp_all [speaks]) nodes

/-- A visit puts out one thing at most. -/
theorem length_visit_of_speaks {d : Dialect ν} {node : ν} (h : d.speaks node = true) :
    (d.visitLinks node).length + (d.visitWarnings node).length = 1 := by
  unfold speaks visitLinks visitWarnings at h
  unfold visitLinks visitWarnings
  cases hlink : d.link? node with
  | ok link => cases link <;> simp_all
  | error e => cases e <;> simp_all

/-- Where nothing fails the survey passes all nodes. -/
theorem takeWhile_passes_of_findSome? {d : Dialect ν} {nodes : List ν}
    (h : nodes.findSome? d.visitFailure? = none) : nodes.takeWhile d.passes = nodes := by
  rw [List.findSome?_eq_none_iff] at h
  rw [List.takeWhile_eq_self_iff]
  intro node hnode
  simp [passes, h node hnode]

/-- The log holds the warnings of the nodes that speak, whether or not the survey fails. -/
theorem survey_log_eq (d : Dialect ν) (file : Json) {subject : Subject} {root : ν}
    (h : d.root subject = .ok root) :
    (d.survey file subject).log
      = ⟨.debug, d.opening file⟩ :: (d.speakers root).flatMap d.visitWarnings := by
  rw [d.survey_eq file h, speakers, flatMap_visitWarnings_filter]

/-- A survey that returns links returns those of the nodes that speak. -/
theorem links_eq_of_survey {d : Dialect ν} {file : Json} {subject : Subject} {root : ν}
    {links : List Link} (h : d.root subject = .ok root)
    (hlinks : (d.survey file subject).outcome = .ok links) :
    links = (d.speakers root).flatMap d.visitLinks := by
  rw [d.survey_eq file h] at hlinks
  cases hf : (d.preorder root).findSome? d.visitFailure? with
  | some e => simp [hf, unlessFailed] at hlinks
  | none =>
    rw [speakers, flatMap_visitLinks_filter, takeWhile_passes_of_findSome? hf]
    simpa [hf, unlessFailed] using hlinks.symm

/-! ## Positions along the preorder -/

/-- The nodes below a root, in preorder. -/
def below (d : Dialect ν) (root : ν) : List ν := (d.children root).flatMap d.preorder

/-- The first node does not begin after the second. -/
def NotAfter (offset? : ν → Option Int) (a b : ν) : Prop :=
  ∀ p ∈ offset? a, ∀ q ∈ offset? b, p ≤ q

instance (offset? : ν → Option Int) (a b : ν) : Decidable (NotAfter offset? a b) :=
  inferInstanceAs (Decidable (∀ p ∈ offset? a, ∀ q ∈ offset? b, p ≤ q))

/-- A node between two others passes their order on, if it has a position. -/
theorem NotAfter.trans {offset? : ν → Option Int} {a b c : ν} (hb : (offset? b).isSome)
    (hab : NotAfter offset? a b) (hbc : NotAfter offset? b c) : NotAfter offset? a c := by
  obtain ⟨q, hq⟩ := Option.isSome_iff_exists.1 hb
  intro p hp r hr
  exact Int.le_trans (hab p hp q hq) (hbc q hq r hr)

/-- Trees in a row ascend if each of them does, begins with its root, and ends
before the root of the next one begins. -/
theorem pairwise_flatMap_preorder (d : Dialect ν) {offset? : ν → Option Int} {trees : List ν}
    (each : ∀ tree ∈ trees, (d.preorder tree).Pairwise (NotAfter offset?))
    (positioned : ∀ tree ∈ trees, (offset? tree).isSome)
    (nested : ∀ tree ∈ trees, ∀ inner ∈ d.preorder tree, NotAfter offset? tree inner)
    (apart : trees.Pairwise fun left right =>
      ∀ inner ∈ d.preorder left, NotAfter offset? inner right) :
    (trees.flatMap d.preorder).Pairwise (NotAfter offset?) := by
  rw [List.pairwise_flatMap]
  -- Between two trees the root of the right one is the bound: the left one ends before it.
  refine ⟨each, apart.imp_of_mem ?_⟩
  intro left right _ hright hapart a ha b hb
  exact (hapart a ha).trans (positioned right hright) (nested right hright b hb)

theorem mem_preorder_of_mem_below {d : Dialect ν} {root node : ν} (h : node ∈ d.below root) :
    node ∈ d.preorder root := by
  rw [d.preorder_eq]
  exact List.mem_cons_of_mem root h

/-- A child of any node in the tree is below the root. -/
theorem mem_below_of_mem_children (d : Dialect ν) {root node child : ν}
    (hnode : node ∈ d.preorder root) (hchild : child ∈ d.children node) : child ∈ d.below root := by
  induction root using d.tree_induction with
  | step root ih =>
    rw [d.preorder_eq] at hnode
    rcases List.mem_cons.1 hnode with rfl | hbelow
    · exact List.mem_flatMap.2 ⟨child, hchild, d.mem_preorder_self child⟩
    · obtain ⟨top, htop, hmem⟩ := List.mem_flatMap.1 hbelow
      exact List.mem_flatMap.2 ⟨top, htop, mem_preorder_of_mem_below (ih top htop hmem)⟩

/-- **What is below a root ascends** in preorder if each node there begins before
what is below it, and the children of each node come one after the other. The root
itself need not have a position. -/
theorem pairwise_below (d : Dialect ν) {offset? : ν → Option Int} {root : ν}
    (positioned : ∀ node ∈ d.below root, (offset? node).isSome)
    (nested : ∀ node ∈ d.below root, ∀ inner ∈ d.preorder node, NotAfter offset? node inner)
    (apart : ∀ node ∈ d.preorder root, (d.children node).Pairwise fun left right =>
      ∀ inner ∈ d.preorder left, NotAfter offset? inner right) :
    (d.below root).Pairwise (NotAfter offset?) := by
  induction root using d.tree_induction with
  | step root ih =>
    have hsub : ∀ child ∈ d.children root, ∀ node ∈ d.preorder child, node ∈ d.below root :=
      fun child hchild node hnode => List.mem_flatMap.2 ⟨child, hchild, hnode⟩
    have hself : ∀ child ∈ d.children root, child ∈ d.below root := fun child hchild =>
      hsub child hchild child (d.mem_preorder_self child)
    have heach : ∀ child ∈ d.children root, (d.preorder child).Pairwise (NotAfter offset?) := by
      intro child hchild
      have hdeeper : ∀ node ∈ d.below child, node ∈ d.below root := fun node hnode =>
        hsub child hchild node (mem_preorder_of_mem_below hnode)
      have hbelow := ih child hchild (fun node hnode => positioned node (hdeeper node hnode))
        (fun node hnode => nested node (hdeeper node hnode))
        (fun node hnode => apart node (mem_preorder_of_mem_below (hsub child hchild node hnode)))
      -- A child is below the root, so it has a position and stands before its own tree.
      have hfirst := nested child (hself child hchild)
      rw [d.preorder_eq] at hfirst ⊢
      exact List.pairwise_cons.2
        ⟨fun inner hinner => hfirst inner (List.mem_cons_of_mem child hinner), hbelow⟩
    exact d.pairwise_flatMap_preorder heach
      (fun child hchild => positioned child (hself child hchild))
      (fun child hchild => nested child (hself child hchild))
      (apart root (d.mem_preorder_self root))

/-- A root without a form does not speak, so those that speak are below it. -/
theorem speakers_sublist_below {d : Dialect ν} {root : ν} (h : d.form? root = none) :
    (d.speakers root).Sublist (d.below root) := by
  have hlink : d.link? root = .ok none := by rw [link?, h]
  have hpass : d.passes root = true := by simp [passes, visitFailure?, hlink]
  have hspeak : d.speaks root = false := by simp [speaks, visitLinks, visitWarnings, hlink]
  rw [speakers, d.preorder_eq, List.takeWhile_cons_of_pos hpass,
    List.filter_cons_of_neg (by simp [hspeak])]
  exact List.filter_sublist.trans (List.takeWhile_sublist _)

end Dialect

/-! ## Positions in the four dialects -/

/-- The child occurrences of an object in the order of the document. -/
def Json.written : Json → List Json
  | .obj fields => Json.occurrences fields
  | _ => []

namespace DialectName

/-- Where a node begins, in each dialect. -/
def offset? : (name : DialectName) → name.Node → Option Int
  | babel => ModuleLinks.babel.offset?
  | swc => ModuleLinks.swc.offset?
  | oxc => ModuleLinks.oxc.offset?
  | treeSitter => fun node => some node.start

/-- The children of a node in the order of the document: as its fields come, or
as the library delivers them. -/
def written : (name : DialectName) → name.Node → List name.Node
  | babel | swc | oxc => Json.written
  | treeSitter => ParseNode.children

/-- One child comes before another, each given with its place among the written
ones: by position and then by place, or by place alone where the library has put
them in order. -/
def ComesFirst : (name : DialectName) → name.Node × ℕ → name.Node × ℕ → Prop
  | babel => Json.Earlier ModuleLinks.babel.offset?
  | swc => Json.Earlier ModuleLinks.swc.offset?
  | oxc => Json.Earlier ModuleLinks.oxc.offset?
  | treeSitter => fun a b => a.2 < b.2

instance (name : DialectName) (a b : name.Node × ℕ) : Decidable (name.ComesFirst a b) :=
  match name with
  | babel | swc | oxc => inferInstanceAs (Decidable (Json.Earlier _ a b))
  | treeSitter => inferInstanceAs (Decidable (a.2 < b.2))

/-- **The positions fit the tree** below a root. -/
structure WellPlaced (name : DialectName) (root : name.Node) : Prop where
  positioned : ∀ node ∈ name.dialect.below root, (name.offset? node).isSome
  nested : ∀ node ∈ name.dialect.below root, ∀ inner ∈ name.dialect.preorder node,
    Dialect.NotAfter name.offset? node inner
  /-- Of two children of a node, nothing in the one that comes first begins after the other. -/
  apart : ∀ node ∈ name.dialect.preorder root, ∀ left ∈ (name.written node).zipIdx,
    ∀ right ∈ (name.written node).zipIdx, name.ComesFirst left right →
    ∀ inner ∈ name.dialect.preorder left.1, Dialect.NotAfter name.offset? inner right.1

/-! ## Children in order -/

/-- The children of an object with positions are the written ones, the first
coming first. -/
theorem exists_sorted_object {offset? : Json → Option Int} {node : Json}
    (hobject : node.isObject = true)
    (h : ∀ child ∈ node.children offset?, (offset? child).isSome) :
    ∃ sorted : List (Json × ℕ), sorted.Perm node.written.zipIdx
      ∧ node.children offset? = sorted.map Prod.fst ∧ sorted.Pairwise (Json.Earlier offset?) := by
  cases node with
  | obj fields =>
    apply Json.inOrder_ascends
    intro child hchild
    exact h child ((Json.inOrder_perm offset? _).mem_iff.2 hchild)
  | _ => simp [Json.isObject] at hobject

/-- The nodes of a well-placed tree have their children in order. -/
theorem WellPlaced.pairwise_children {name : DialectName} {subject : Subject} {root : name.Node}
    (h : name.dialect.root subject = .ok root) (hplaced : name.WellPlaced root) :
    ∀ node ∈ name.dialect.preorder root, (name.dialect.children node).Pairwise fun left right =>
      ∀ inner ∈ name.dialect.preorder left, Dialect.NotAfter name.offset? inner right := by
  intro node hnode
  have hpositioned : ∀ child ∈ name.dialect.children node, (name.offset? child).isSome :=
    fun child hchild => hplaced.positioned child (name.dialect.mem_below_of_mem_children hnode hchild)
  obtain ⟨sorted, hperm, hchildren, hascends⟩ : ∃ sorted : List (name.Node × ℕ),
      sorted.Perm (name.written node).zipIdx ∧ name.dialect.children node = sorted.map Prod.fst
        ∧ sorted.Pairwise name.ComesFirst := by
    cases name with
    | babel =>
      exact exists_sorted_object (ObjectDialect.isObject_of_mem_preorder _
        (ObjectDialect.isObject_of_hasTypeIn (babel_hasTypeIn_of_root h)) node hnode) hpositioned
    | swc =>
      exact exists_sorted_object (ObjectDialect.isObject_of_mem_preorder _
        (ObjectDialect.isObject_of_hasTypeIn (swc_hasTypeIn_of_root h)) node hnode) hpositioned
    | oxc =>
      exact exists_sorted_object (ObjectDialect.isObject_of_mem_preorder _
        (ObjectDialect.isObject_of_hasTypeIn (oxc_hasTypeIn_of_root h)) node hnode) hpositioned
    | treeSitter =>
      exact ⟨node.children.zipIdx, .refl _, (List.zipIdx_map_fst 0 node.children).symm,
        Dialect.pairwise_snd_zipIdx node.children⟩
  rw [hchildren, List.pairwise_map]
  apply hascends.imp_of_mem
  intro left right hleft hright hfirst
  exact hplaced.apart node hnode left (hperm.mem_iff.1 hleft) right (hperm.mem_iff.1 hright) hfirst

end DialectName

/-! ## The survey of a well-placed tree -/

/-- **A survey in the order of the program**: what is put out comes from nodes
below the root whose positions ascend. -/
structure SpeaksInOrder (name : DialectName) (file : Json) (subject : Subject)
    (root : name.Node) : Prop where
  /-- The log is the beginning and the warnings of the nodes that speak. -/
  log : (name.survey file subject).log = ⟨.debug, name.dialect.opening file⟩
    :: (name.dialect.speakers root).flatMap name.dialect.visitWarnings
  /-- The links are those of the nodes that speak. -/
  links : ∀ links, (name.survey file subject).outcome = .ok links →
    links = (name.dialect.speakers root).flatMap name.dialect.visitLinks
  /-- A node that speaks puts out one link or one warning. -/
  single : ∀ node ∈ name.dialect.speakers root,
    (name.dialect.visitLinks node).length + (name.dialect.visitWarnings node).length = 1
  below : ∀ node ∈ name.dialect.speakers root, node ∈ name.dialect.below root
  /-- The positions of the nodes that speak ascend. -/
  ascends : ∃ positions : List ℤ,
    (name.dialect.speakers root).map name.offset? = positions.map some
      ∧ positions.Pairwise (· ≤ ·)

/-- **The links and warnings of a survey come in the order of the program** where
the positions of the nodes fit the tree. -/
theorem offsets_ascend (name : DialectName) (file : Json) (subject : Subject) (root : name.Node)
    (h : name.dialect.root subject = .ok root) (hplaced : name.WellPlaced root) :
    SpeaksInOrder name file subject root := by
  have hspeakers := Dialect.speakers_sublist_below (DialectName.form?_of_root h)
  have hpositioned : ∀ node ∈ name.dialect.speakers root, (name.offset? node).isSome :=
    fun node hnode => hplaced.positioned node (hspeakers.subset hnode)
  refine ⟨name.dialect.survey_log_eq file h, fun links => Dialect.links_eq_of_survey h, ?_,
    fun node hnode => hspeakers.subset hnode, ?_⟩
  · intro node hnode
    exact Dialect.length_visit_of_speaks (List.mem_filter.1 hnode).2
  · -- The speakers are some of the nodes below the root, in their order.
    have hbelow := Dialect.pairwise_below name.dialect hplaced.positioned hplaced.nested
      (hplaced.pairwise_children h)
    refine ⟨(name.dialect.speakers root).map fun node => (name.offset? node).getD 0, ?_, ?_⟩
    · rw [List.map_map]
      apply List.map_congr_left
      intro node hnode
      obtain ⟨p, hp⟩ := Option.isSome_iff_exists.1 (hpositioned node hnode)
      simp [hp]
    · rw [List.pairwise_map]
      apply (hbelow.sublist hspeakers).imp_of_mem
      intro a b ha hb hab
      obtain ⟨p, hp⟩ := Option.isSome_iff_exists.1 (hpositioned a ha)
      obtain ⟨q, hq⟩ := Option.isSome_iff_exists.1 (hpositioned b hb)
      simpa [hp, hq] using hab p hp q hq

/-- The declaration comes first, since it begins before the statement. -/
theorem children_scrambledProgram :
    DialectName.babel.dialect.children scrambledProgram = [earlyDeclaration, lateStatement] := by
  show Json.inOrder babel.offset? [lateStatement, earlyDeclaration] = _
  have hlate : babel.offset? lateStatement = some 12 := rfl
  have hearly : babel.offset? earlyDeclaration = some 0 := rfl
  rw [Json.inOrder_pair hlate hearly, if_neg (by decide)]

theorem wellPlaced_scrambledProgram : DialectName.babel.WellPlaced scrambledProgram where
  positioned := by
    rw [Dialect.below, children_scrambledProgram]
    decide +kernel
  nested := by
    rw [Dialect.below, children_scrambledProgram]
    decide +kernel
  apart := by
    rw [Dialect.preorder_eq, children_scrambledProgram]
    decide +kernel

/-- An export at the end of a module. -/
def laterExport : Json :=
  spannedNode "ExportAllDeclaration" 30
    [("source", spannedNode "StringLiteral" 44 [("value", .ofString "./b.js")])]

/-- An import at its beginning. -/
def earlierImport : Json :=
  spannedNode "ImportDeclaration" 0
    [("source", spannedNode "StringLiteral" 7 [("value", .ofString "./a.js")])]

/-- A module with spans, the items of its body not in the order of its text. -/
def scrambledModule : Json :=
  spannedNode "Module" 0 [("body", .arr [laterExport, earlierImport])]

theorem children_scrambledModule :
    DialectName.swc.dialect.children scrambledModule = [earlierImport, laterExport] := by
  show Json.inOrder swc.offset? [laterExport, earlierImport] = _
  have hlater : swc.offset? laterExport = some 30 := rfl
  have hearlier : swc.offset? earlierImport = some 0 := rfl
  rw [Json.inOrder_pair hlater hearlier, if_neg (by decide)]

theorem wellPlaced_scrambledModule : DialectName.swc.WellPlaced scrambledModule where
  positioned := by
    rw [Dialect.below, children_scrambledModule]
    decide +kernel
  nested := by
    rw [Dialect.below, children_scrambledModule]
    decide +kernel
  apart := by
    rw [Dialect.preorder_eq, children_scrambledModule]
    decide +kernel

/-- The named nodes of a program with an import and with one while it runs. -/
def parsedProgram : ParseNode :=
  parsedNode "program" none 0 []
    [parsedNode "import_statement" none 0 []
      [parsedNode "string" (some "source") 7 []
        [parsedNode "string_fragment" none 8 "./a.js".toList []]],
    parsedNode "call_expression" none 17 []
      [parsedNode "import" (some "function") 17 [] [],
      parsedNode "arguments" (some "arguments") 23 []
        [parsedNode "string" none 24 []
          [parsedNode "string_fragment" none 25 "./b.js".toList []]]]]

theorem wellPlaced_parsedProgram : DialectName.treeSitter.WellPlaced parsedProgram where
  positioned := by decide +kernel
  nested := by decide +kernel
  apart := by decide +kernel

theorem offsets_ascend_scrambledProgram :
    DialectName.babel.dialect.root (.json scrambledProgram) = .ok scrambledProgram
      ∧ DialectName.babel.WellPlaced scrambledProgram
      ∧ SpeaksInOrder .babel .null (.json scrambledProgram) scrambledProgram
      ∧ DialectName.swc.dialect.root (.json scrambledModule) = .ok scrambledModule
      ∧ DialectName.swc.WellPlaced scrambledModule
      ∧ SpeaksInOrder .swc .null (.json scrambledModule) scrambledModule
      ∧ DialectName.treeSitter.dialect.root (.tree parsedProgram) = .ok parsedProgram
      ∧ DialectName.treeSitter.WellPlaced parsedProgram
      ∧ SpeaksInOrder .treeSitter .null (.tree parsedProgram) parsedProgram :=
  ⟨rfl, wellPlaced_scrambledProgram,
    offsets_ascend .babel .null (.json scrambledProgram) scrambledProgram rfl
      wellPlaced_scrambledProgram,
    rfl, wellPlaced_scrambledModule,
    offsets_ascend .swc .null (.json scrambledModule) scrambledModule rfl
      wellPlaced_scrambledModule,
    rfl, wellPlaced_parsedProgram,
    offsets_ascend .treeSitter .null (.tree parsedProgram) parsedProgram rfl
      wellPlaced_parsedProgram⟩

end ModuleLinks

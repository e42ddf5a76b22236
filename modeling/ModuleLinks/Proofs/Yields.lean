/-
What a tree yields.

Most of the nodes of a tree make no link, and those that do make it without a
warning if the tree is well formed. A tree **yields** links if its walk collects
them and nothing else: no warning, no abort. What a tree yields is put together
from what its parts yield, and of the parts that yield nothing not even the
order matters, so trees can be surveyed part by part.

The second half of the file is the same for a single declaration: the links that
it makes when its specifiers, its source and its attributes read as they should.
-/
import Mathlib.Data.List.Forall2
import ModuleLinks.Proofs.Preorder

set_option autoImplicit false

namespace ModuleLinks

/-! ## Trees that are told their place -/

/-- **A tree to plant**: one that is told the address of its root, for the nodes
that keep their addresses or look up their positions by them. -/
abbrev Planted (ν : Type) : Type := List ℕ → ν

/-- The trees below an address, numbered from `i` on. -/
def grow {ν : Type} (address : List ℕ) : ℕ → List (Planted ν) → List ν
  | _, [] => []
  | i, tree :: rest => tree (address ++ [i]) :: grow address (i + 1) rest

section Planted

variable {α ν : Type}

/-- Every tree that has grown is one of those planted, at a number from `i` on. -/
theorem exists_of_mem_grow {address : List ℕ} {trees : List (Planted ν)} {i : ℕ} {node : ν}
    (h : node ∈ grow address i trees) :
    ∃ tree ∈ trees, ∃ k, i ≤ k ∧ tree (address ++ [k]) = node := by
  induction trees generalizing i with
  | nil => cases h
  | cons tree rest ih =>
    rcases List.mem_cons.1 h with rfl | hrest
    · exact ⟨tree, List.mem_cons_self, i, Nat.le_refl i, rfl⟩
    · obtain ⟨other, hmem, k, hk, hnode⟩ := ih hrest
      exact ⟨other, List.mem_cons_of_mem tree hmem, k, Nat.le_of_succ_le hk, hnode⟩

/-- **What holds of planted trees at every address** holds of them side by side. -/
theorem forall_mem_grow {P : ν → Prop} {trees : List (Planted ν)}
    (h : ∀ tree ∈ trees, ∀ a, P (tree a)) (address : List ℕ) (i : ℕ) :
    ∀ node ∈ grow address i trees, P node := by
  intro node hnode
  obtain ⟨tree, htree, k, _, rfl⟩ := exists_of_mem_grow hnode
  exact h tree htree (address ++ [k])

/-- So it holds of what is made of values in a row, if it does of what is made of each. -/
theorem forall_mem_grow_map {P : ν → Prop} {make : α → Planted ν}
    (h : ∀ value a, P (make value a)) (values : List α) (address : List ℕ) (i : ℕ) :
    ∀ node ∈ grow address i (values.map make), P node :=
  forall_mem_grow (List.forall_mem_map.2 fun value _ => h value) address i

/-- **The trees grow in order**: what relates every tree to a value relates the
grown trees to the values. -/
theorem forall₂_grow {R : α → ν → Prop} (make : α → Planted ν) (h : ∀ value a, R value (make value a))
    (values : List α) (address : List ℕ) (i : ℕ) :
    List.Forall₂ R values (grow address i (values.map make)) := by
  induction values generalizing i with
  | nil => exact .nil
  | cons value rest ih => exact .cons (h value _) (ih (i + 1))

theorem grow_append (address : List ℕ) (i : ℕ) (before after : List (Planted ν)) :
    grow address i (before ++ after)
      = grow address i before ++ grow address (i + before.length) after := by
  induction before generalizing i with
  | nil => rfl
  | cons tree before ih =>
    have hlength : i + 1 + before.length = i + (tree :: before).length := by
      rw [List.length_cons]
      omega
    rw [List.cons_append, grow, grow, ih, hlength, List.cons_append]

/-- A question that each node answers by its meaning is answered by all meanings. -/
theorem mapM_of_forall₂ {β : Type} {read : ν → Except Failure β} {meaning : α → β}
    {values : List α} {nodes : List ν}
    (h : List.Forall₂ (fun value node => read node = .ok (meaning value)) values nodes) :
    nodes.mapM read = .ok (values.map meaning) := by
  induction h with
  | nil => rfl
  | cons hhead _ ih =>
    rw [List.mapM_cons, hhead, ih]
    rfl

end Planted

namespace Dialect

variable {ν : Type}

/-! ## Links of a tree -/

/-- **The tree yields the links**, without a warning. -/
def Yields (d : Dialect ν) (node : ν) (links : List Link) : Prop :=
  d.gather (d.preorder node) = ⟨[], .ok links⟩

/-- A visit that does not fail contributes its link, and logs nothing. -/
theorem contribution_of_link? {d : Dialect ν} {node : ν} {link : Option Link}
    (h : d.link? node = .ok link) : d.contribution node = ⟨[], .ok link.toList⟩ := by
  rw [contribution, h]

/-- Trees that yield links, side by side, yield them in order. -/
theorem gather_of_forall₂ {d : Dialect ν} {nodes : List ν} {found : List (List Link)}
    (h : List.Forall₂ d.Yields nodes found) :
    d.gather (nodes.flatMap d.preorder) = ⟨[], .ok found.flatten⟩ := by
  induction h with
  | nil => rfl
  | cons hhead _ ih =>
    rw [List.flatMap_cons, gather_append, hhead, ih, List.flatten_cons]
    rfl

/-- **A node without a form** yields what its children yield. -/
theorem yields_of_children {d : Dialect ν} {node : ν} {found : List (List Link)}
    (hform : d.form? node = none) (h : List.Forall₂ d.Yields (d.children node) found) :
    d.Yields node found.flatten := by
  have hlink : d.link? node = .ok none := by rw [link?, hform]
  rw [Yields, d.preorder_eq, gather, contribution_of_link? hlink, gather_of_forall₂ h]
  rfl

/-- **A list of items** below a node without a form yields the links that the items
make. -/
theorem yields_filterMap {α : Type} {d : Dialect ν} {node : ν} {items : List α}
    {meaning : α → Option Link} (hform : d.form? node = none)
    (h : List.Forall₂ (fun it child => d.Yields child (meaning it).toList) items
      (d.children node)) :
    d.Yields node (items.filterMap meaning) := by
  have hall : List.Forall₂ d.Yields (d.children node) (items.map fun it => (meaning it).toList) := by
    rw [List.forall₂_map_right_iff]
    exact h.flip
  rw [List.filterMap_eq_flatMap_toList]
  exact yields_of_children hform hall

theorem gather_of_quiet {d : Dialect ν} {nodes : List ν} (h : ∀ node ∈ nodes, d.Yields node []) :
    d.gather (nodes.flatMap d.preorder) = ⟨[], .ok []⟩ := by
  have hall : List.Forall₂ d.Yields nodes (nodes.map fun _ => []) := by
    rw [List.forall₂_map_right_iff, List.forall₂_same]
    exact h
  rw [gather_of_forall₂ hall]
  simp

/-- Where nothing below some nodes yields anything, their trees put out what the nodes do. -/
theorem gather_flatMap_of_quiet {d : Dialect ν} {nodes : List ν}
    (h : ∀ node ∈ nodes, ∀ child ∈ d.children node, d.Yields child []) :
    d.gather (nodes.flatMap d.preorder) = d.gather nodes := by
  induction nodes with
  | nil => rfl
  | cons node rest ih =>
    rw [List.forall_mem_cons] at h
    have hnode : d.gather (d.preorder node) = d.gather [node] := by
      rw [d.preorder_eq, gather, gather, gather_of_quiet h.1]
      rfl
    rw [List.flatMap_cons, gather_append, hnode, ih h.2, ← gather_append, List.singleton_append]

/-- **A node with nothing below it** yields its own link. -/
theorem yields_of_link? {d : Dialect ν} {node : ν} {link : Option Link}
    (hlink : d.link? node = .ok link) (h : ∀ child ∈ d.children node, d.Yields child []) :
    d.Yields node link.toList := by
  rw [Yields, d.preorder_eq, gather, contribution_of_link? hlink, gather_of_quiet h]
  show (⟨[], .ok (link.toList ++ [])⟩ : Logged (List Link)) = _
  rw [List.append_nil]

/-- Nodes that make no link, and are not reported either, put out nothing. -/
theorem gather_of_link? {d : Dialect ν} {nodes : List ν}
    (h : ∀ node ∈ nodes, d.link? node = .ok none) : d.gather nodes = ⟨[], .ok []⟩ := by
  induction nodes with
  | nil => rfl
  | cons node rest ih =>
    rw [List.forall_mem_cons] at h
    rw [gather, contribution_of_link? h.1, ih h.2]
    rfl

/-- A node without a form, above trees that yield nothing, yields nothing. -/
theorem yields_nil {d : Dialect ν} {node : ν} (hform : d.form? node = none)
    (h : ∀ child ∈ d.children node, d.Yields child []) : d.Yields node [] := by
  have hlink : d.link? node = .ok none := by rw [link?, hform]
  exact yields_of_link? hlink h

/-- **A node around another one** yields what the other one yields, wherever that
stands among children that yield nothing. -/
theorem yields_around {d : Dialect ν} {node inner : ν} {links : List Link} {before after : List ν}
    (hform : d.form? node = none) (hperm : (d.children node).Perm (before ++ inner :: after))
    (hbefore : ∀ child ∈ before, d.Yields child []) (hafter : ∀ child ∈ after, d.Yields child [])
    (hinner : d.Yields inner links) : d.Yields node links := by
  -- The children may have been sorted, so they are split again at the inner node.
  obtain ⟨left, right, hsplit⟩ :=
    List.append_of_mem (hperm.mem_iff.2 (List.mem_append_right before List.mem_cons_self))
  have hothers : (left ++ right).Perm (before ++ after) := by
    rw [hsplit] at hperm
    exact ((List.perm_middle.symm.trans hperm).trans List.perm_middle).cons_inv
  have hquiet : ∀ child ∈ left ++ right, d.Yields child [] := by
    intro child hchild
    rcases List.mem_append.1 (hothers.mem_iff.1 hchild) with h | h
    · exact hbefore child h
    · exact hafter child h
  have hall : List.Forall₂ d.Yields (d.children node)
      ((left.map fun _ => []) ++ links :: right.map fun _ => []) := by
    rw [hsplit]
    apply List.rel_append
    · rw [List.forall₂_map_right_iff, List.forall₂_same]
      exact fun child h => hquiet child (List.mem_append_left right h)
    · refine .cons hinner ?_
      rw [List.forall₂_map_right_iff, List.forall₂_same]
      exact fun child h => hquiet child (List.mem_append_right left h)
  have hlinks := yields_of_children hform hall
  simpa using hlinks

/-- **The survey of a tree that yields links.** Its log holds nothing but the
record of the beginning. -/
theorem survey_of_yields {d : Dialect ν} {subject : Subject} {root : ν} {links : List Link}
    (hroot : d.root subject = .ok root) (h : d.Yields root links) (file : Json) :
    d.survey file subject = ⟨[⟨.debug, d.opening file⟩], .ok links⟩ := by
  rw [d.survey_of_root file hroot, collect_singleton, h]
  rfl

/-! ## Tags of a specifier

A specifier has up to four names, and parsers fill them in differently. The
lemmas say which of them makes the tag. -/

section Tags

variable {d : Dialect ν} {spec : ν} {t : Text}

/-- A default specifier is tagged as such, whatever its names. -/
theorem tag_default (hreach : d.reach spec = .defaultExport) :
    d.tag spec = .ok Link.defaultTag := by
  rw [tag, if_pos hreach]
  rfl

/-- **A specifier of the whole module** is tagged as such, unless it exports `default`. -/
theorem tag_wholeModule {exported : Json} (hreach : d.reach spec = .wholeModule)
    (hexported : d.exportedName spec = .ok exported) :
    d.tag spec
      = .ok (if exported.isText "default" then Link.defaultTag else Link.namespaceTag) := by
  have hdefault : ¬d.reach spec = .defaultExport := by rw [hreach]; exact nofun
  rw [tag, if_neg hdefault, hexported]
  show (if exported.isText "default" = true then _ else _ : Except Failure Json) = _
  by_cases htext : exported.isText "default" = true
  · rw [if_pos htext, if_pos htext]
    rfl
  · rw [if_neg htext, if_neg htext]
    show (if d.reach spec = .wholeModule then _ else _ : Except Failure Json) = _
    rw [if_pos hreach]
    rfl

/-- A specifier of the whole module is tagged as such if it exports no name. -/
theorem tag_namespace (hreach : d.reach spec = .wholeModule)
    (hexported : d.exportedName spec = .ok .null) : d.tag spec = .ok Link.namespaceTag :=
  tag_wholeModule hreach hexported

/-- **A specifier of one name** is tagged with its first name, unless the name that
it exports is `default`. -/
theorem tag_oneName {exported : Json} (hreach : d.reach spec = .oneName)
    (hexported : d.exportedName spec = .ok exported)
    (hfirst : d.firstName spec = .ok (.str t)) :
    d.tag spec = .ok (if exported.isText "default" then Link.defaultTag else .str t) := by
  have hdefault : ¬d.reach spec = .defaultExport := by rw [hreach]; exact nofun
  have hwhole : ¬d.reach spec = .wholeModule := by rw [hreach]; exact nofun
  rw [tag, if_neg hdefault, hexported]
  show (if exported.isText "default" = true then _ else _ : Except Failure Json) = _
  by_cases htext : exported.isText "default" = true
  · rw [if_pos htext, if_pos htext]
    rfl
  · rw [if_neg htext, if_neg htext]
    show (if d.reach spec = .wholeModule then _ else _ : Except Failure Json) = _
    rw [if_neg hwhole, hfirst]
    rfl

/-- The first name is the imported one, if there is one. -/
theorem firstName_imported (h : d.importedName spec = .ok (.str t)) :
    d.firstName spec = .ok (.str t) := by
  rw [firstName, h]
  rfl

/-- Without an imported name it is the one that an export takes. -/
theorem firstName_taken (himported : d.importedName spec = .ok .null)
    (h : d.takenName spec = .ok (.str t)) : d.firstName spec = .ok (.str t) := by
  rw [firstName, himported, h]
  rfl

theorem firstName_local (himported : d.importedName spec = .ok .null)
    (htaken : d.takenName spec = .ok .null) (h : d.localName spec = .ok (.str t)) :
    d.firstName spec = .ok (.str t) := by
  rw [firstName, himported, htaken, h]
  rfl

/-- **The tags of a declaration** are those of its specifiers, or that of a file
if it has none. -/
theorem tags_of_forall₂ {α : Type} {node : ν} {specs : List α} {meaning : α → Json}
    (h : List.Forall₂ (fun s spec => d.tag spec = .ok (meaning s)) specs (d.specifiers node)) :
    d.tags node = .ok (if specs.isEmpty then [Link.fileTag] else specs.map meaning) := by
  cases specs with
  | nil =>
    rw [tags, List.forall₂_nil_left_iff.1 h]
    rfl
  | cons s rest =>
    rw [tags]
    -- There is a specifier, so the list of specifiers is not the empty one.
    split
    · next hnone => rw [hnone] at h; cases h
    · exact mapM_of_forall₂ h

end Tags

/-! ## Links of a declaration -/

/-- **What a declaration says of the other module**: its source and the type it
asserts. -/
structure Refers (d : Dialect ν) (node : ν) (source : Text) (assertion : Option Text) : Prop where
  reads_source : d.source? node = .ok (some source)
  nonempty : source ≠ []
  reads_assertion : d.assertion? node = .ok assertion

variable {d : Dialect ν} {node : ν} {source : Text} {assertion : Option Text}

/-- **A node that refers to a source makes the link to it**, with the given tags. -/
theorem Refers.linkWith (h : d.Refers node source assertion) (tags : List Json) :
    d.linkWith node tags
      = .ok { specifiers := tags, source := .str source, assertion := Json.ofText? assertion } := by
  obtain ⟨c, rest, rfl⟩ := List.exists_cons_of_ne_nil h.nonempty
  have hsource : d.requiredSource node = .ok (c :: rest) := by
    rw [requiredSource, h.reads_source]
    rfl
  rw [Dialect.linkWith, hsource, h.reads_assertion]
  rfl

/-- The visit of an import makes it with the tags of the specifiers. -/
theorem Refers.link?_import (h : d.Refers node source assertion) {tags : List Json}
    (hform : d.form? node = some .importDeclaration) (htags : d.tags node = .ok tags) :
    d.link? node
      = .ok (some
          { specifiers := tags, source := .str source, assertion := Json.ofText? assertion }) := by
  rw [link?, hform]
  show (d.importLink node).map some = _
  rw [importLink, htags]
  show (d.linkWith node tags).map some = _
  rw [h.linkWith tags]
  rfl

/-- The link of an export of names that come from another module. -/
theorem Refers.link?_namedExport (h : d.Refers node source assertion) {tags : List Json}
    (hform : d.form? node = some .namedExport) (hsource : d.hasSource node = true)
    (htags : d.tags node = .ok tags) :
    d.link? node
      = .ok (some
          { specifiers := tags, source := .str source, assertion := Json.ofText? assertion }) := by
  rw [link?, hform]
  show d.namedExportLink? node = _
  rw [namedExportLink?, if_pos hsource, importLink, htags]
  show (d.linkWith node tags).map some = _
  rw [h.linkWith tags]
  rfl

/-- The visit of an export of everything makes it with the tag of a whole module. -/
theorem Refers.link?_wholeExport (h : d.Refers node source assertion)
    (hform : d.form? node = some .wholeExport) (hsource : d.hasSource node = true) :
    d.link? node
      = .ok (some
          { specifiers := [Link.namespaceTag], source := .str source,
            assertion := Json.ofText? assertion }) := by
  rw [link?, hform]
  show d.wholeExportLink? node = _
  rw [wholeExportLink?, if_pos hsource, h.linkWith]
  rfl

/-- An export of names of this module makes no link. -/
theorem link?_of_not_hasSource (hform : d.form? node = some .namedExport)
    (hsource : d.hasSource node = false) : d.link? node = .ok none := by
  rw [link?, hform]
  show d.namedExportLink? node = _
  rw [namedExportLink?, hsource]
  rfl

/-- A call of anything but the import keyword makes no link. -/
theorem link?_of_not_isDynamicImport (hform : d.form? node = some .importCall)
    (hdynamic : d.isDynamicImport node = false) : d.link? node = .ok none := by
  rw [link?, hform]
  show d.dynamicLink? node = _
  rw [dynamicLink?, hdynamic]
  rfl

/-- **The link of a dynamic import**, of a literal or of an expression that is
computed. -/
theorem link?_dynamicImport {argument : ν} {literal : Option Text}
    (hform : d.form? node = some .importCall ∨ d.form? node = some .importExpression)
    (hdynamic : d.isDynamicImport node = true)
    (hargument : d.importArgument? node = .ok (some argument))
    (hliteral : d.literal? argument = .ok literal) (hne : literal ≠ some []) :
    d.link? node
      = .ok (some
          { specifiers := [Link.defaultTag], source := literal.elim Link.computedSource .str }) := by
  have hsource : d.dynamicSource node argument
      = .ok (literal.elim Link.computedSource .str) := by
    rw [dynamicSource, hliteral]
    rcases literal with _ | _ | ⟨c, rest⟩
    · rfl
    · exact absurd rfl hne
    · rfl
  have hlink : d.link? node = d.dynamicLink? node := by
    rcases hform with h | h <;> rw [link?, h]
  rw [hlink, dynamicLink?, hdynamic, hargument]
  -- What is left is to read the source, and to put it into the link.
  show (d.dynamicSource node argument >>= fun source =>
    (.ok (some { specifiers := [Link.defaultTag], source := source })
      : Except Failure (Option Link))) = _
  rw [hsource]
  rfl

end Dialect

end ModuleLinks

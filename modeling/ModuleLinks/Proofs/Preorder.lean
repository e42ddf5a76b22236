/-
The order of a survey.

A survey is a loop around a stack: it takes a node from the top, sees what the
node contributes, and puts the children of the node on the stack, the leftmost
one on top. What this amounts to is the **preorder** of the tree, which is
defined here by recursion over the tree, and the survey is what the nodes of
that order contribute one after the other.

**Occurrences.** A tree may hold equal nodes at different places, so "every node
once" is a statement about places. A place is an address: the positions of the
children that lead to it from the root. The addresses of the preorder are all
the addresses of the tree, and they come in the order of a dictionary, which
says at once that none comes twice and that a node stands before what is below
it and to its right.

Main statement: `survey_eq_preorder`, with the three things that a visit can do
(a link, a warning, an abort) in one equation for the log and the outcome.
-/
import Mathlib.Data.List.Basic
import Mathlib.Logic.Function.Iterate
import ModuleLinks.Proofs.Utf8Reading
import ModuleLinks.Survey

set_option autoImplicit false

namespace ModuleLinks

namespace Dialect

variable {ν : Type}

/-! ## The recursive order -/

/-- A child weighs less than its parent, which is what recursion over a tree
rests on. -/
theorem weight_lt_of_mem_children (d : Dialect ν) {node child : ν}
    (h : child ∈ d.children node) : d.weight child < d.weight node := by
  have hle : d.weight child ≤ total d.weight (d.children node) := by
    -- The child is one of the summands of the total.
    obtain ⟨before, after, hsplit⟩ := List.append_of_mem h
    rw [hsplit, total_append, total_cons]
    omega
  exact Nat.lt_of_le_of_lt hle (d.weight_children node)

/-- **Induction over a tree**: what holds of a node as soon as it holds of the
node's children holds of every node. -/
@[elab_as_elim]
theorem tree_induction (d : Dialect ν) {motive : ν → Prop} (node : ν)
    (step : ∀ node, (∀ child ∈ d.children node, motive child) → motive node) :
    motive node :=
  step node fun child _ => tree_induction d child step
termination_by d.weight node
decreasing_by exact d.weight_lt_of_mem_children ‹_›

/-- **The preorder** of a tree: the node, then the trees of its children from
left to right. -/
def preorder (d : Dialect ν) (node : ν) : List ν :=
  node :: (d.children node).flatMap fun child => d.preorder child
termination_by d.weight node
decreasing_by exact d.weight_lt_of_mem_children ‹_›

/-- **The recursive walk**: what the node contributes, then the walks of its
children from left to right. -/
def walk (d : Dialect ν) (node : ν) : Logged (List Link) := do
  let found ← d.contribution node
  let below ← (d.children node).mapM fun child => d.walk child
  return found ++ below.flatten
termination_by d.weight node
decreasing_by exact d.weight_lt_of_mem_children ‹_›

/-- The preorder of a tree is its root and the preorders of its children. -/
theorem preorder_eq (d : Dialect ν) (node : ν) :
    d.preorder node = node :: (d.children node).flatMap d.preorder := by
  rw [preorder]

/-- The walk takes what the root contributes and then what the children do. -/
theorem walk_eq (d : Dialect ν) (node : ν) :
    d.walk node = do
      let found ← d.contribution node
      let below ← (d.children node).mapM d.walk
      return found ++ below.flatten := by
  rw [walk]

theorem mem_preorder_self (d : Dialect ν) (node : ν) : node ∈ d.preorder node := by
  rw [d.preorder_eq]
  exact List.mem_cons_self

/-- What holds of the root, and of the children of a node of which it holds,
holds of every node of the tree. -/
theorem forall_mem_preorder (d : Dialect ν) {P : ν → Prop}
    (step : ∀ node, P node → ∀ child ∈ d.children node, P child) {root : ν} (hroot : P root) :
    ∀ node ∈ d.preorder root, P node := by
  induction root using d.tree_induction with
  | step root ih =>
    intro node hnode
    rw [d.preorder_eq] at hnode
    rcases List.mem_cons.1 hnode with rfl | hbelow
    · exact hroot
    · obtain ⟨child, hchild, hmem⟩ := List.mem_flatMap.1 hbelow
      exact ih child hchild (step root hroot child hchild) node hmem

/-! ## What the nodes of a list contribute -/

/-- **What the nodes of a list contribute**, one after the other. -/
def gather (d : Dialect ν) : List ν → Logged (List Link)
  | [] => pure []
  | node :: rest => do
    let found ← d.contribution node
    let others ← d.gather rest
    return found ++ others

/-- What nodes contribute one after the other goes by parts. -/
theorem gather_append (d : Dialect ν) (before after : List ν) :
    d.gather (before ++ after) = do
      let found ← d.gather before
      let others ← d.gather after
      return found ++ others := by
  induction before with
  | nil => simp [gather]
  | cons node before ih =>
    rw [List.cons_append, gather, gather, ih]
    simp only [bind_assoc, pure_bind, List.append_assoc]

/-- Walking tree by tree is gathering along the joined preorders, where it is so
for each tree on its own. -/
theorem mapM_walk (d : Dialect ν) (trees : List ν)
    (h : ∀ tree ∈ trees, d.walk tree = d.gather (d.preorder tree)) :
    List.flatten <$> trees.mapM d.walk = d.gather (trees.flatMap d.preorder) := by
  induction trees with
  | nil => simp [gather]
  | cons tree trees ih =>
    have hrest := ih fun other hother => h other (List.mem_cons_of_mem tree hother)
    rw [List.flatMap_cons, gather_append, ← hrest, List.mapM_cons,
      h tree List.mem_cons_self]
    simp

/-- **The walk of a tree gathers its preorder.** -/
theorem walk_eq_gather (d : Dialect ν) (node : ν) : d.walk node = d.gather (d.preorder node) := by
  induction node using d.tree_induction with
  | step node ih =>
    -- The walks of the children are joined to one, and that is gathered along their preorders.
    rw [d.walk_eq, d.preorder_eq, gather, ← d.mapM_walk _ ih]
    simp

/-- **The loop gathers along the preorder** of the nodes it has still to visit.
This is the invariant of the survey: the first of these nodes is visited, and
its children take its place in front of the others. -/
theorem collect_eq_gather (d : Dialect ν) (pending : List ν) :
    d.collect pending = d.gather (pending.flatMap d.preorder) := by
  fun_induction d.collect pending with
  | case1 => rfl
  | case2 node rest ih =>
    -- The preorder of what is left begins with the node and goes on with its children.
    have hsplit : (node :: rest).flatMap d.preorder
        = node :: (d.children node ++ rest).flatMap d.preorder := by
      rw [List.flatMap_cons, d.preorder_eq, List.flatMap_append, List.cons_append]
    rw [hsplit, gather, ih]

/-! ## The stack

The loop on its own, without what the nodes contribute. The top of the stack is
its end, and children are put on it from right to left. -/

/-- **One turn of the loop**: the node on top is taken off, and its children are
put on. -/
def turn (d : Dialect ν) (stack : List ν) : List ν :=
  match stack.getLast? with
  | none => []
  | some node => stack.dropLast ++ (d.children node).reverse

/-- The preorder of what is still to visit: of the trees on the stack, from the
top downwards. -/
def remaining (d : Dialect ν) (stack : List ν) : List ν := stack.reverse.flatMap d.preorder

/-- The top of the stack is the next node of what remains. -/
theorem getLast?_eq_head?_remaining (d : Dialect ν) (stack : List ν) :
    stack.getLast? = (d.remaining stack).head? := by
  rcases List.eq_nil_or_concat stack with rfl | ⟨below, node, rfl⟩
  · rfl
  · rw [remaining, List.concat_eq_append, List.reverse_concat, List.flatMap_cons, d.preorder_eq,
      List.getLast?_concat]
    rfl

/-- A turn of the loop takes that node, and nothing else, from what remains. -/
theorem remaining_turn (d : Dialect ν) (stack : List ν) :
    d.remaining (d.turn stack) = (d.remaining stack).tail := by
  rcases List.eq_nil_or_concat stack with rfl | ⟨below, node, rfl⟩
  · rfl
  · rw [turn, List.concat_eq_append, List.getLast?_concat]
    simp only [remaining, List.dropLast_concat, List.reverse_append, List.reverse_reverse,
      List.flatMap_append, List.reverse_singleton, List.flatMap_singleton, d.preorder_eq node]
    rfl

theorem remaining_iterate_turn (d : Dialect ν) (stack : List ν) (k : ℕ) :
    d.remaining (d.turn^[k] stack) = (d.remaining stack).drop k := by
  induction k with
  | zero => rfl
  | succ k ih => rw [Function.iterate_succ_apply', remaining_turn, ih, List.tail_drop]

/-- After `k` turns the top of the stack is the node with the number `k` in the
preorder, and there is none when all have been visited. -/
theorem top_iterate_turn (d : Dialect ν) (root : ν) (k : ℕ) :
    (d.turn^[k] [root]).getLast? = (d.preorder root)[k]? := by
  rw [getLast?_eq_head?_remaining, remaining_iterate_turn, List.head?_drop]
  congr 1
  simp [remaining]

/-! ## Occurrences -/

/-- The node at an address, if the tree has one there. -/
def nodeAt? (d : Dialect ν) (node : ν) : List ℕ → Option ν
  | [] => some node
  | i :: address => (d.children node)[i]?.bind fun child => d.nodeAt? child address

/-- **The addresses of a tree** in preorder: that of the node itself, then those
below its children, from left to right. -/
def addresses (d : Dialect ν) (node : ν) : List (List ℕ) :=
  [] :: (d.children node).zipIdx.attach.flatMap fun ⟨(child, i), _⟩ =>
    (d.addresses child).map (i :: ·)
termination_by d.weight node
decreasing_by exact d.weight_lt_of_mem_children (List.fst_mem_of_mem_zipIdx ‹_›)

/-- The addresses of a tree: the empty one, and those of the children behind their positions. -/
theorem addresses_eq (d : Dialect ν) (node : ν) :
    d.addresses node
      = [] :: (d.children node).zipIdx.flatMap fun child =>
          (d.addresses child.1).map (child.2 :: ·) := by
  rw [addresses, List.flatMap_subtype fun _ _ => rfl, List.unattach_attach]

/-- **The addresses are those at which there is a node.** -/
theorem mem_addresses_iff (d : Dialect ν) (node : ν) (address : List ℕ) :
    address ∈ d.addresses node ↔ (d.nodeAt? node address).isSome := by
  induction address generalizing node with
  | nil => simp [d.addresses_eq node, nodeAt?]
  | cons i address ih =>
    have hchild : ∀ child, (child, i) ∈ (d.children node).zipIdx
        ↔ (d.children node)[i]? = some child := fun _ => List.mem_zipIdx_iff_getElem?
    rw [d.addresses_eq]
    simp only [List.mem_cons, reduceCtorEq, false_or, List.mem_flatMap, Prod.exists, List.mem_map,
      List.cons.injEq]
    constructor
    · rintro ⟨child, _, hmem, _, hbelow, rfl, rfl⟩
      simpa [nodeAt?, (hchild child).1 hmem] using (ih child).1 hbelow
    · intro h
      -- There is a node at the address, so there is a child at its first number.
      cases hc : (d.children node)[i]? with
      | none => simp [nodeAt?, hc] at h
      | some child =>
        refine ⟨child, i, (hchild child).2 hc, address, (ih child).2 ?_, rfl, rfl⟩
        simpa [nodeAt?, hc] using h

/-- **The nodes at the addresses are the preorder.** -/
theorem map_nodeAt?_addresses (d : Dialect ν) (node : ν) :
    (d.addresses node).map (d.nodeAt? node) = (d.preorder node).map some := by
  induction node using d.tree_induction with
  | step node ih =>
    -- An address below a child is the number of the child and an address in its tree.
    have hbelow : ∀ child ∈ (d.children node).zipIdx,
        ((d.addresses child.1).map (child.2 :: ·)).map (d.nodeAt? node)
          = (d.preorder child.1).map some := by
      intro child hchild
      rw [← ih child.1 (List.fst_mem_of_mem_zipIdx hchild), List.map_map]
      apply List.map_congr_left
      intro address _
      simp [nodeAt?, List.mem_zipIdx_iff_getElem?.1 hchild]
    rw [d.addresses_eq, d.preorder_eq, List.map_cons, List.map_flatMap,
      List.flatMap_congr hbelow, List.map_cons, List.map_flatMap]
    conv_rhs => rw [← List.zipIdx_map_fst 0 (d.children node), List.flatMap_map]
    rfl

theorem pairwise_snd_zipIdx (nodes : List ν) : nodes.zipIdx.Pairwise (·.2 < ·.2) := by
  rw [← List.pairwise_map (f := Prod.snd) (R := (· < ·)), List.zipIdx_map_snd]
  exact List.pairwise_lt_range'

/-- **The addresses come in the order of a dictionary**, so none comes twice. -/
theorem pairwise_addresses (d : Dialect ν) (node : ν) :
    (d.addresses node).Pairwise (· < ·) := by
  induction node using d.tree_induction with
  | step node ih =>
    rw [d.addresses_eq, List.pairwise_cons, List.pairwise_flatMap]
    -- The root comes first, each child's addresses ascend, and children come by number.
    refine ⟨?_, ?_, ?_⟩
    · intro address haddress
      obtain ⟨child, _, hbelow⟩ := List.mem_flatMap.1 haddress
      obtain ⟨rest, _, rfl⟩ := List.mem_map.1 hbelow
      exact List.nil_lt_cons _ _
    · intro child hchild
      rw [List.pairwise_map]
      apply (ih child.1 (List.fst_mem_of_mem_zipIdx hchild)).imp
      intro a b hab
      exact List.cons_lt_cons_iff.2 (.inr ⟨rfl, hab⟩)
    · apply (pairwise_snd_zipIdx (d.children node)).imp
      intro left right hlt a ha b hb
      obtain ⟨_, _, rfl⟩ := List.mem_map.1 ha
      obtain ⟨_, _, rfl⟩ := List.mem_map.1 hb
      exact List.cons_lt_cons_iff.2 (.inl hlt)

/-! ## What a visit does

A visit adds a link, or records a warning, or ends the survey, or does nothing.
The three functions say which, from what the declaration makes of the node. -/

/-- The links that a visit adds: one, or none. -/
def visitLinks (d : Dialect ν) (node : ν) : List Link :=
  match d.link? node with
  | .ok link => link.toList
  | .error _ => []

/-- The warning that a visit records: one for a malformed declaration. -/
def visitWarnings (d : Dialect ν) (node : ν) : List LogRecord :=
  match d.link? node with
  | .error (.malformedDeclaration nodeType reason) =>
    [⟨.warning, Text.ofString "Skipping declaration: "
      ++ (Failure.malformedDeclaration nodeType reason).message⟩]
  | _ => []

/-- The failure with which a visit ends the survey: any but a malformed
declaration. -/
def visitFailure? (d : Dialect ν) (node : ν) : Option Failure :=
  match d.link? node with
  | .ok _ => none
  | .error (.malformedDeclaration _ _) => none
  | .error e => some e

/-- The survey goes on after the node. -/
def passes (d : Dialect ν) (node : ν) : Bool := (d.visitFailure? node).isNone

/-- A value, or a failure in place of it. -/
def unlessFailed {α : Type} (failure? : Option Failure) (value : α) : Except Failure α :=
  match failure? with
  | some e => .error e
  | none => .ok value

/-- What a node contributes, as its warnings, its links and its failure. -/
theorem contribution_eq (d : Dialect ν) (node : ν) :
    d.contribution node
      = ⟨d.visitWarnings node, unlessFailed (d.visitFailure? node) (d.visitLinks node)⟩ := by
  unfold contribution visitWarnings visitFailure? visitLinks
  cases d.link? node with
  | ok link => rfl
  | error e => cases e <;> rfl

/-- A visit that ends the survey warns of nothing. -/
theorem visitWarnings_of_failure {d : Dialect ν} {node : ν} {e : Failure}
    (h : d.visitFailure? node = some e) : d.visitWarnings node = [] := by
  unfold visitFailure? at h
  unfold visitWarnings
  split at h <;> simp_all

/-- What a list of nodes contributes: the warnings of the nodes before the first
that fails, and, if none fails, the links of all of them. -/
theorem gather_eq (d : Dialect ν) (nodes : List ν) :
    d.gather nodes
      = ⟨(nodes.takeWhile d.passes).flatMap d.visitWarnings,
          unlessFailed (nodes.findSome? d.visitFailure?) (nodes.flatMap d.visitLinks)⟩ := by
  induction nodes with
  | nil => rfl
  | cons node nodes ih =>
    rw [gather, contribution_eq, ih]
    -- A node that fails hides the warnings and the links of all behind it.
    cases hf : d.visitFailure? node with
    | some e =>
      have hpass : d.passes node = false := by simp [passes, hf]
      rw [visitWarnings_of_failure hf, List.takeWhile_cons_of_neg (by simp [hpass]),
        List.findSome?_cons_of_isSome (by simp [hf]), hf]
      rfl
    | none =>
      have hpass : d.passes node = true := by simp [passes, hf]
      rw [List.takeWhile_cons_of_pos hpass, List.findSome?_cons_of_isNone (by simp [hf])]
      cases hrest : nodes.findSome? d.visitFailure? <;>
        simp [unlessFailed, bind, Logged.andThen, pure, List.flatMap_cons]

/-! ## The survey -/

/-- The loop takes the node on top of its stack, adds what the node contributes,
and goes on with the stack after the turn. -/
theorem collect_reverse (d : Dialect ν) (stack : List ν) :
    d.collect stack.reverse
      = match stack.getLast? with
        | none => pure []
        | some node => do
          let found ← d.contribution node
          let others ← d.collect (d.turn stack).reverse
          return found ++ others := by
  rcases List.eq_nil_or_concat stack with rfl | ⟨below, node, rfl⟩
  · rw [List.reverse_nil, collect]
    rfl
  · rw [turn, List.concat_eq_append, List.getLast?_concat, List.reverse_append]
    simp only [List.reverse_singleton, List.singleton_append, List.dropLast_concat,
      List.reverse_append, List.reverse_reverse]
    rw [collect]

/-- **A survey in preorder**: what it means that the survey of a subject with the
given root is the recursive walk over its tree. -/
structure SurveysInPreorder (d : Dialect ν) (file : Json) (subject : Subject) (root : ν) :
    Prop where
  /-- The survey records its beginning and runs the loop with the root on the stack. -/
  begins : d.survey file subject
    = Logged.record .debug (d.opening file) >>= fun _ => d.collect [root].reverse
  /-- A turn of the loop adds what the node on top of the stack contributes. -/
  loops : ∀ stack : List ν, d.collect stack.reverse
    = match stack.getLast? with
      | none => pure []
      | some node => do
        let found ← d.contribution node
        let others ← d.collect (d.turn stack).reverse
        return found ++ others
  /-- The nodes come to the top in preorder, and then the stack is empty. -/
  takes : ∀ k, (d.turn^[k] [root]).getLast? = (d.preorder root)[k]?
  /-- The preorder lists the nodes at the addresses of the tree. -/
  visits : (d.addresses root).map (d.nodeAt? root) = (d.preorder root).map some
  /-- Every occurrence has its address among them. -/
  complete : ∀ address, address ∈ d.addresses root ↔ (d.nodeAt? root address).isSome
  /-- No address comes twice, and they come from left to right. -/
  once : (d.addresses root).Pairwise (· < ·)
  /-- The survey is the recursive walk. -/
  walks : d.survey file subject
    = Logged.record .debug (d.opening file) >>= fun _ => d.walk root
  /-- A visit adds a link, or records one warning, or ends the survey. -/
  contributes : ∀ node, d.contribution node
    = ⟨d.visitWarnings node, unlessFailed (d.visitFailure? node) (d.visitLinks node)⟩
  /-- The log holds the warnings of the nodes before the first that ends the survey; the links are
  those of all nodes, if none does. -/
  result : d.survey file subject
    = ⟨⟨.debug, d.opening file⟩ :: ((d.preorder root).takeWhile d.passes).flatMap d.visitWarnings,
        unlessFailed ((d.preorder root).findSome? d.visitFailure?)
          ((d.preorder root).flatMap d.visitLinks)⟩

/-- With a root the survey is the loop, from the root alone on the stack. -/
theorem survey_of_root (d : Dialect ν) (file : Json) {subject : Subject} {root : ν}
    (h : d.root subject = .ok root) :
    d.survey file subject
      = Logged.record .debug (d.opening file) >>= fun _ => d.collect [root] := by
  rw [survey, h]
  rfl

theorem collect_singleton (d : Dialect ν) (root : ν) :
    d.collect [root] = d.gather (d.preorder root) := by
  rw [collect_eq_gather, List.flatMap_singleton]

/-- **The survey in closed form**: the warnings up to the first failure, and the links if there is
none. -/
theorem survey_eq (d : Dialect ν) (file : Json) {subject : Subject} {root : ν}
    (h : d.root subject = .ok root) :
    d.survey file subject
      = ⟨⟨.debug, d.opening file⟩ :: ((d.preorder root).takeWhile d.passes).flatMap d.visitWarnings,
          unlessFailed ((d.preorder root).findSome? d.visitFailure?)
            ((d.preorder root).flatMap d.visitLinks)⟩ := by
  rw [d.survey_of_root file h, collect_singleton, gather_eq]
  rfl

end Dialect

/-- **A survey is the preorder walk of the tree**, in every dialect and for every
subject with an accepted root. -/
theorem survey_eq_preorder (name : DialectName) (file : Json) (subject : Subject)
    (root : name.Node) (h : name.dialect.root subject = .ok root) :
    name.dialect.SurveysInPreorder file subject root where
  begins := name.dialect.survey_of_root file h
  loops := name.dialect.collect_reverse
  takes := name.dialect.top_iterate_turn root
  visits := name.dialect.map_nodeAt?_addresses root
  complete := name.dialect.mem_addresses_iff root
  once := name.dialect.pairwise_addresses root
  walks := by
    rw [name.dialect.survey_of_root file h, name.dialect.collect_singleton,
      name.dialect.walk_eq_gather]
  contributes := name.dialect.contribution_eq
  result := name.dialect.survey_eq file h

/-- A node of an object tree with a type, a position and further fields. -/
def placedNode (type : String) (start : Int) (fields : List (String × Json)) : Json :=
  .obj ((Text.ofString "type", .ofString type) :: (Text.ofString "start", .int start)
    :: fields.map fun entry => (Text.ofString entry.1, entry.2))

/-- Such a node of the parser that puts positions into spans. -/
def spannedNode (type : String) (start : Int) (fields : List (String × Json)) : Json :=
  .obj ((Text.ofString "type", .ofString type)
    :: (Text.ofString "span", .obj [(Text.ofString "start", .int start)])
    :: fields.map fun entry => (Text.ofString entry.1, entry.2))

/-- A named node of a parse tree at a position. -/
def parsedNode (type : String) (field : Option String) (start : ℕ) (chars : List Char)
    (children : List ParseNode) : ParseNode where
  address := []
  type := Text.ofString type
  isNamed := true
  fieldName := field.map Text.ofString
  start := start
  bytes := Utf8.encode chars
  children := children

/-- A statement with a dynamic import in it. -/
def lateStatement : Json :=
  placedNode "ExpressionStatement" 12
    [("expression", placedNode "ImportExpression" 12
      [("source", placedNode "StringLiteral" 19 [("value", .ofString "./b.js")])])]

/-- An import declaration that lacks a source. -/
def earlyDeclaration : Json := placedNode "ImportDeclaration" 0 []

/-- A program whose fields are not in the order of its text. -/
def scrambledProgram : Json :=
  placedNode "Program" 0 [("last", lateStatement), ("first", earlyDeclaration)]

theorem survey_eq_preorder_scrambledProgram :
    DialectName.babel.dialect.root (.json scrambledProgram) = .ok scrambledProgram
      ∧ DialectName.babel.dialect.SurveysInPreorder .null (.json scrambledProgram)
        scrambledProgram :=
  ⟨rfl, survey_eq_preorder .babel .null (.json scrambledProgram) scrambledProgram rfl⟩

end ModuleLinks

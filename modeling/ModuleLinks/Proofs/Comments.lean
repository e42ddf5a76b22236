/-
Comments in parse trees.

A parse tree keeps its comments, and it keeps them where they stand: between specifiers, in
front of an argument, in the middle of a string literal even. A comment is a named child
like any other, so each question about a node has to see past it. Here comments are put
into a tree, at any place but inside of what is read as a text, and every question is shown
to have the same answer as before: a search by field or by type does not find a comment, a
list of specifiers or attributes takes nothing from it, and it adds nothing to a literal.
The nodes of the two trees then make the same links, and a comment makes none.

Main statement: `survey_withComments`.
-/
import Mathlib.Data.List.Forall2
import ModuleLinks.Proofs.Agreement
import ModuleLinks.Proofs.Utf8Reading
import ModuleLinks.Proofs.Yields

set_option autoImplicit false

namespace ModuleLinks

namespace ParseNode

/-! ## Trees with comments put in -/

/-- **A comment**: a named node that is the value of no field and has nothing below it. -/
structure IsComment (node : ParseNode) : Prop where
  type : node.hasType "comment" = true
  named : node.isNamed = true
  field : node.fieldName = none
  childless : node.children = []

/-- The fields whose values are names. -/
def nameFields : List String := ["name", "alias", "key"]

/-- **The node is read as a text**: it is a piece of a string, or stands for a name. -/
def isVerbatim (node : ParseNode) : Bool :=
  node.type.isOneOf ["string_fragment", "escape_sequence"] ||
    match node.fieldName with
    | some field => field.isOneOf nameFields
    | none => false

/-- **One list of nodes is another one with comments put in**, if that is allowed; the nodes that
were there are related. -/
inductive Interspersed (R : Bool → ParseNode → ParseNode → Prop) :
    Bool → List ParseNode → List ParseNode → Prop where
  | nil (free : Bool) : Interspersed R free [] []
  | kept {free : Bool} {a b : ParseNode} {as bs : List ParseNode} (h : R free a b)
    (hrest : Interspersed R free as bs) : Interspersed R free (a :: as) (b :: bs)
  | added {comment : ParseNode} {as bs : List ParseNode} (hcomment : comment.IsComment)
    (hrest : Interspersed R true as bs) : Interspersed R true as (comment :: bs)

/-- **One tree is another one with comments put in.** The nodes that were there keep their types,
fields and order, and their texts where these are read. Nothing is put in below such a text, or
anywhere if that is not allowed to begin with. -/
inductive WithComments : Bool → ParseNode → ParseNode → Prop where
  | mk {free : Bool} {a b : ParseNode} (htype : a.type = b.type) (hnamed : a.isNamed = b.isNamed)
    (hfield : a.fieldName = b.fieldName) (hbytes : a.isVerbatim = true → a.bytes = b.bytes)
    (hchildren : Interspersed WithComments (free && !a.isVerbatim) a.children b.children) :
    WithComments free a b

/-- The trees are the same, up to comments in the second one. -/
def SameBarComments (a b : ParseNode) : Prop := ∃ free, WithComments free a b

variable {free : Bool} {a b node : ParseNode} {as bs : List ParseNode}

theorem interspersed_refl (h : ∀ a ∈ as, WithComments free a a) :
    Interspersed WithComments free as as := by
  induction as with
  | nil => exact .nil free
  | cons a as ih =>
    rw [List.forall_mem_cons] at h
    exact .kept h.1 (ih h.2)

/-- A tree is itself with no comments put in. -/
theorem withComments_refl (node : ParseNode) : WithComments free node node := by
  induction node using treeSitter.tree_induction generalizing free with
  | step node ih =>
    exact .mk rfl rfl rfl (fun _ => rfl) (interspersed_refl fun child hchild => ih child hchild)

theorem IsComment.type_eq (h : node.IsComment) : node.type = Text.ofString "comment" :=
  (Text.is_iff _ _).1 h.type

/-- A comment has no other type, so whoever looks for nodes of a type passes it over. -/
theorem IsComment.hasType_eq_false (h : node.IsComment) {type : String} (htype : type ≠ "comment") :
    node.hasType type = false := by
  simp [hasType, h.type_eq, Text.is, htype.symm]

/-! ## Lists -/

namespace Interspersed

/-- **A search that passes over comments** finds the same node. -/
theorem find? (h : Interspersed WithComments free as bs) {p : ParseNode → Bool}
    (hp : ∀ a b, SameBarComments a b → p a = p b) (hcomment : ∀ c, c.IsComment → p c = false) :
    Option.Rel SameBarComments (as.find? p) (bs.find? p) := by
  induction h with
  | nil => exact .none
  | @kept free a b _ _ hab _ ih =>
    rw [List.find?_cons, List.find?_cons, ← hp a b ⟨free, hab⟩]
    split
    · exact .some ⟨free, hab⟩
    · exact ih
  | added hc _ ih =>
    rw [List.find?_cons, hcomment _ hc]
    exact ih

/-- **What is taken from each node** is the same, if nothing is taken from comments. -/
theorem flatMap (h : Interspersed WithComments free as bs) {f : ParseNode → List ParseNode}
    (hf : ∀ a b, SameBarComments a b → List.Forall₂ SameBarComments (f a) (f b))
    (hcomment : ∀ c, c.IsComment → f c = []) :
    List.Forall₂ SameBarComments (as.flatMap f) (bs.flatMap f) := by
  induction h with
  | nil => exact .nil
  | @kept free a b _ _ hab _ ih =>
    rw [List.flatMap_cons, List.flatMap_cons]
    exact List.rel_append (hf a b ⟨free, hab⟩) ih
  | added hc _ ih =>
    rw [List.flatMap_cons, hcomment _ hc]
    exact ih

end Interspersed

/-- Going through the named children is going through all children and passing over the tokens. -/
theorem flatMap_namedChildren_eq (node : ParseNode) (f : ParseNode → List ParseNode) :
    node.namedChildren.flatMap f
      = node.children.flatMap fun child => if child.isNamed then f child else [] := by
  rw [namedChildren]
  generalize node.children = children
  induction children with
  | nil => rfl
  | cons child rest ih =>
    rw [List.flatMap_cons, ← ih]
    by_cases hnamed : child.isNamed = true
    · rw [List.filter_cons_of_pos hnamed, if_pos hnamed, List.flatMap_cons]
    · rw [List.filter_cons_of_neg hnamed, if_neg hnamed, List.nil_append]

/-- The named children of a type, collected one child at a time. -/
theorem namedChildrenOf_eq (node : ParseNode) (type : String) :
    node.namedChildrenOf type
      = node.namedChildren.flatMap fun child => if child.hasType type then [child] else [] := by
  rw [namedChildrenOf]
  induction node.namedChildren with
  | nil => rfl
  | cons child rest ih =>
    rw [List.flatMap_cons, ← ih, List.filter_cons]
    split <;> rfl

theorem isSome_eq_of_rel {R : ParseNode → ParseNode → Prop} {x y : Option ParseNode}
    (h : Option.Rel R x y) : x.isSome = y.isSome := by
  cases h <;> rfl

/-! ## Questions -/

namespace SameBarComments

theorem type (h : SameBarComments a b) : a.type = b.type := by
  obtain ⟨_, ⟨htype, -, -, -, -⟩⟩ := h
  exact htype

theorem isNamed (h : SameBarComments a b) : a.isNamed = b.isNamed := by
  obtain ⟨_, ⟨-, hnamed, -, -, -⟩⟩ := h
  exact hnamed

theorem fieldName (h : SameBarComments a b) : a.fieldName = b.fieldName := by
  obtain ⟨_, ⟨-, -, hfield, -, -⟩⟩ := h
  exact hfield

/-- The children are the same up to comments between them. -/
theorem children (h : SameBarComments a b) :
    ∃ free, Interspersed WithComments free a.children b.children := by
  obtain ⟨_, ⟨-, -, -, -, hchildren⟩⟩ := h
  exact ⟨_, hchildren⟩

theorem hasType (h : SameBarComments a b) (type : String) : a.hasType type = b.hasType type := by
  rw [ParseNode.hasType, ParseNode.hasType, h.type]

/-- Where a node is taken as it is written, comments do not stand inside it, and its text is the
same. -/
theorem text (h : SameBarComments a b) (hverbatim : a.isVerbatim = true) : a.text = b.text := by
  obtain ⟨_, ⟨-, -, -, hbytes, -⟩⟩ := h
  rw [ParseNode.text, ParseNode.text, hbytes hverbatim]

/-- **The value of a field** is that of before. -/
theorem child? (h : SameBarComments a b) (name : String) :
    Option.Rel SameBarComments (a.child? name) (b.child? name) := by
  obtain ⟨_, hchildren⟩ := h.children
  refine hchildren.find? (fun x y hxy => ?_) fun c hc => ?_
  · rw [hxy.fieldName]
  · rw [hc.field]

/-- Whatever is collected from the named children is the same up to comments, if a comment adds
nothing to it. -/
theorem flatMap_namedChildren (h : SameBarComments a b) {f : ParseNode → List ParseNode}
    (hf : ∀ a b, SameBarComments a b → List.Forall₂ SameBarComments (f a) (f b))
    (hcomment : ∀ c, c.IsComment → f c = []) :
    List.Forall₂ SameBarComments (a.namedChildren.flatMap f) (b.namedChildren.flatMap f) := by
  obtain ⟨_, hchildren⟩ := h.children
  rw [flatMap_namedChildren_eq, flatMap_namedChildren_eq]
  refine hchildren.flatMap (fun x y hxy => ?_) fun c hc => ?_
  · rw [hxy.isNamed]
    split
    · exact hf x y hxy
    · exact .nil
  · rw [hcomment c hc, ite_self]

theorem namedChildrenOf (h : SameBarComments a b) {type : String} (htype : type ≠ "comment") :
    List.Forall₂ SameBarComments (a.namedChildrenOf type) (b.namedChildrenOf type) := by
  rw [namedChildrenOf_eq, namedChildrenOf_eq]
  refine h.flatMap_namedChildren (fun x y hxy => ?_) fun c hc => ?_
  · rw [hxy.hasType]
    split
    · exact .cons hxy .nil
    · exact .nil
  · rw [hc.hasType_eq_false htype]
    rfl

end SameBarComments

/-! ## Literals and names -/

/-- The text of a row of pieces is that of the first one in front of that of the others. -/
theorem map_flatten_mapM_cons (node : ParseNode) (rest : List ParseNode) :
    ((node :: rest).mapM piece).map List.flatten
      = node.piece >>= fun t => ((rest.mapM piece).map List.flatten).map (t ++ ·) := by
  rw [List.mapM_cons]
  cases node.piece with
  | error _ => rfl
  | ok _ => cases rest.mapM piece <;> rfl

/-- The text of a string literal as one function of its children, for the induction over them. -/
theorem literal?_eq (node : ParseNode) :
    node.literal? = if node.hasType "string" then
      ((node.children.mapM piece).map List.flatten).map some else .ok none := by
  unfold literal?
  split
  · cases node.children.mapM piece <;> rfl
  · rfl

/-- A piece of a string is a token, a fragment or an escape, and says the same. -/
theorem SameBarComments.piece (h : SameBarComments a b) : a.piece = b.piece := by
  have htext : ∀ type ∈ ["string_fragment", "escape_sequence"], a.hasType type = true →
      a.text = b.text := fun type hmem htype =>
    h.text (Bool.or_eq_true_iff.2 (.inl (List.any_eq_true.2 ⟨type, hmem, htype⟩)))
  rw [ParseNode.piece, ParseNode.piece, ← h.hasType, ← h.hasType]
  split
  · next htype => exact htext "string_fragment" (by decide) htype
  · split
    · next htype => rw [htext "escape_sequence" (by decide) htype]
    · rfl

/-- A comment among the pieces of a string adds nothing. -/
theorem Interspersed.map_flatten_mapM (h : Interspersed WithComments free as bs) :
    (as.mapM piece).map List.flatten = (bs.mapM piece).map List.flatten := by
  induction h with
  | nil => rfl
  | @kept free _ _ _ _ hab _ ih =>
    rw [map_flatten_mapM_cons, map_flatten_mapM_cons, ih, SameBarComments.piece ⟨free, hab⟩]
  | @added c as bs hc _ ih =>
    -- A comment has another type than the pieces of a string, and counts as an empty one.
    have hnothing : c.piece = .ok [] := by
      rw [piece, hc.hasType_eq_false (by decide), hc.hasType_eq_false (by decide)]
      rfl
    rw [map_flatten_mapM_cons, hnothing, ih]
    exact (id_map (f := Except Failure) _).symm

namespace SameBarComments

/-- A comment between the pieces of a string adds nothing to its text. -/
theorem literal? (h : SameBarComments a b) : a.literal? = b.literal? := by
  obtain ⟨_, hchildren⟩ := h.children
  rw [literal?_eq, literal?_eq, h.hasType, hchildren.map_flatten_mapM]

/-- A name is read off a string or off the text of the node, and both are the same. -/
theorem spelledName (h : SameBarComments a b) (hverbatim : a.isVerbatim = true) :
    a.spelledName = b.spelledName := by
  rw [ParseNode.spelledName, ParseNode.spelledName, h.hasType, h.literal?, h.text hverbatim]

/-- A comment has no field name, so the value of a field is the same child. -/
theorem fieldLiteral? (h : SameBarComments a b) (name : String) :
    a.fieldLiteral? name = b.fieldLiteral? name := by
  have hchild := h.child? name
  unfold ParseNode.fieldLiteral?
  generalize a.child? name = x, b.child? name = y at hchild
  cases hchild with
  | none => rfl
  | some hvalue => exact hvalue.literal?

end SameBarComments

/-- What stands in the field of a name is taken as it is written. -/
theorem isVerbatim_of_child? {name : String} {value : ParseNode} (hname : name ∈ nameFields)
    (h : value ∈ node.child? name) : value.isVerbatim = true := by
  have hfield := List.find?_some h
  cases hvalue : value.fieldName with
  | none =>
    rw [hvalue] at hfield
    cases hfield
  | some field =>
    rw [hvalue] at hfield
    rw [isVerbatim, hvalue]
    exact Bool.or_eq_true_iff.2 (.inr (List.any_eq_true.2 ⟨name, hname, hfield⟩))

/-- The name in a field is the same if both trees have the field. -/
theorem spelledName?_eq {x y : Option ParseNode} (h : Option.Rel SameBarComments x y)
    (hverbatim : ∀ value ∈ x, value.isVerbatim = true) : spelledName? x = spelledName? y := by
  cases h with
  | none => rfl
  | some hvalue => exact hvalue.spelledName (hverbatim _ rfl)

theorem SameBarComments.spelledName?_child? (h : SameBarComments a b) {name : String}
    (hname : name ∈ nameFields) : spelledName? (a.child? name) = spelledName? (b.child? name) :=
  spelledName?_eq (h.child? name) fun _ => isVerbatim_of_child? hname

end ParseNode

namespace TreeSitter

open ParseNode

variable {free : Bool} {a b : ParseNode}

/-! ## Specifiers -/

theorem forall₂_partSpecifiers_of_same (h : SameBarComments a b) :
    List.Forall₂ SameBarComments (partSpecifiers a) (partSpecifiers b) := by
  rw [partSpecifiers, partSpecifiers, ← h.type, ← h.hasType]
  split
  · exact .cons h .nil
  · split
    · exact h.namedChildrenOf (by decide)
    · exact .nil

/-- A clause of a declaration has the same specifiers. -/
theorem forall₂_clauseSpecifiers (h : SameBarComments a b) :
    List.Forall₂ SameBarComments (clauseSpecifiers a) (clauseSpecifiers b) := by
  rw [clauseSpecifiers, clauseSpecifiers, ← h.hasType, ← h.hasType, ← h.hasType]
  split
  · refine h.flatMap_namedChildren (fun x y => forall₂_partSpecifiers_of_same) fun c hc => ?_
    -- A comment among the parts of a clause has none of their types.
    simp [partSpecifiers, hc.type_eq, hc.hasType_eq_false, Text.isOneOf, Text.is]
  · split
    · exact h.namedChildrenOf (by decide)
    · split
      · exact .cons h .nil
      · exact .nil

/-- **The specifiers of a declaration are the same up to comments**, and in the same order. -/
theorem forall₂_specifiers (h : SameBarComments a b) :
    List.Forall₂ SameBarComments (specifiers a) (specifiers b) := by
  refine h.flatMap_namedChildren (fun x y => forall₂_clauseSpecifiers) fun c hc => ?_
  simp [clauseSpecifiers, hc.hasType_eq_false]

/-- The report of a malformed node names its type only. -/
theorem malformed_eq (h : SameBarComments a b) (reason : String) :
    treeSitter.malformed a reason = treeSitter.malformed b reason := by
  have hdetail : treeSitter.typeDetail a = treeSitter.typeDetail b :=
    congrArg (fun type => Json.ofText? (some type)) h.type
  rw [Dialect.malformed, Dialect.malformed, hdetail]

theorem nameIn_eq (h : SameBarComments a b) (type : String) {field : String}
    (hfield : field ∈ nameFields) : nameIn type field a = nameIn type field b := by
  rw [nameIn, nameIn, h.hasType, h.spelledName?_child? hfield]

/-- The alias comes before the name in either tree, and the same one of them is there. -/
theorem exportedName_eq (h : SameBarComments a b) : exportedName a = exportedName b := by
  have hname := h.child? "name"
  have halias := h.child? "alias"
  rw [exportedName, exportedName, h.hasType]
  congr 1
  refine spelledName?_eq ?_ fun value hvalue => ?_
  · generalize a.child? "alias" = x, b.child? "alias" = y at halias
    cases halias with
    | none => exact hname
    | some hvalue => exact .some hvalue
  · rcases Option.or_eq_some_iff.1 hvalue with hvalue | ⟨_, hvalue⟩
    · exact isVerbatim_of_child? (by decide) hvalue
    · exact isVerbatim_of_child? (by decide) hvalue

/-- All that makes the tag of a specifier is read alike. -/
theorem namedAlike_of_same (h : SameBarComments a b) :
    Dialect.NamedAlike Eq treeSitter treeSitter a b where
  reach := by
    show reach a = reach b
    rw [reach, reach, h.hasType, h.type]
  imported := nameIn_eq h _ (by decide)
  taken := nameIn_eq h _ (by decide)
  bound := nameIn_eq h _ (by decide)
  exported := exportedName_eq h
  malformed := malformed_eq h

/-! ## Attributes -/

/-- The pairs of import attributes are the same up to comments. -/
theorem forall₂_attributePairs (h : SameBarComments a b) :
    List.Forall₂ SameBarComments (attributePairs a) (attributePairs b) := by
  refine List.rel_flatMap (h.namedChildrenOf (by decide)) fun x y hxy => ?_
  refine hxy.flatMap_namedChildren (fun _ _ hpair => hpair.namedChildrenOf (by decide)) fun c hc => ?_
  rw [ParseNode.namedChildrenOf, ParseNode.namedChildren, hc.childless]
  rfl

/-- The asserted type is read off the first pair with the key, and it is the same pair. -/
theorem typeAttribute?_eq {pairs pairs' : List ParseNode}
    (h : List.Forall₂ SameBarComments pairs pairs') : typeAttribute? pairs = typeAttribute? pairs' := by
  induction h with
  | nil => rfl
  | cons hpair _ ih =>
    rw [typeAttribute?, typeAttribute?, ih, hpair.spelledName?_child? (by decide),
      hpair.fieldLiteral?]

/-! ## Dynamic imports -/

theorem isDynamicImport_eq (h : SameBarComments a b) : isDynamicImport a = isDynamicImport b := by
  have hfunction := h.child? "function"
  rw [isDynamicImport, isDynamicImport, h.hasType]
  generalize a.child? "function" = x, b.child? "function" = y at hfunction
  cases hfunction with
  | none => rfl
  | some hvalue => exact congrArg (_ && ·) (hvalue.hasType "import")

/-- **The argument** is the first one that is no comment, and it stays that. -/
theorem importArgument?_rel (h : SameBarComments a b) :
    Option.Rel SameBarComments (importArgument? a) (importArgument? b) := by
  have harguments := h.child? "arguments"
  unfold importArgument?
  generalize a.child? "arguments" = x, b.child? "arguments" = y at harguments
  cases harguments with
  | none => exact .none
  | some hvalue =>
    obtain ⟨_, hchildren⟩ := hvalue.children
    simp only [ParseNode.namedChildren, List.find?_filter]
    refine hchildren.find? (fun x y hxy => ?_) fun c hc => ?_
    · rw [hxy.isNamed, hxy.hasType]
    · rw [hc.type]
      simp

/-- The argument of a dynamic import is the first named node in the brackets that is no comment.
-/
theorem dynamicLink?_eq (h : SameBarComments a b) :
    treeSitter.dynamicLink? a = treeSitter.dynamicLink? b := by
  have hargument := importArgument?_rel h
  have hdynamic : treeSitter.isDynamicImport a = treeSitter.isDynamicImport b :=
    isDynamicImport_eq h
  have hx : treeSitter.importArgument? a = .ok (importArgument? a) := rfl
  have hy : treeSitter.importArgument? b = .ok (importArgument? b) := rfl
  rw [Dialect.dynamicLink?, Dialect.dynamicLink?, hdynamic, hx, hy]
  generalize importArgument? a = x, importArgument? b = y at hargument
  split
  · rfl
  cases hargument with
  | none => exact congrArg Except.error (malformed_eq h _)
  | @some x y hvalue =>
    -- The literal is the same, and the report of an empty one names no more than the type.
    have hliteral : treeSitter.literal? x = treeSitter.literal? y := hvalue.literal?
    have hsource : treeSitter.dynamicSource a x = treeSitter.dynamicSource b y := by
      rw [Dialect.dynamicSource, Dialect.dynamicSource, hliteral]
      simp only [malformed_eq h]
    let link (source : Json) : Except Failure (Option Link) :=
      .ok (some { specifiers := [Link.defaultTag], source })
    exact congrArg (· >>= link) hsource

/-! ## Nodes -/

/-- A comment is neither a star nor a namespace, so an export stays what it is. -/
theorem form?_eq (h : SameBarComments a b) : form? a = form? b := by
  obtain ⟨_, hchildren⟩ := h.children
  have hstar := hchildren.find? (p := fun child => child.type.isOneOf ["*", "namespace_export"])
    (fun x y hxy => by rw [hxy.type]) fun c hc => by rw [hc.type_eq]; decide
  have hwhole : (a.children.any fun child => child.type.isOneOf ["*", "namespace_export"])
      = b.children.any fun child => child.type.isOneOf ["*", "namespace_export"] := by
    rw [Bool.eq_iff_iff, List.any_eq_true, List.any_eq_true, ← List.find?_isSome,
      ← List.find?_isSome, isSome_eq_of_rel hstar]
  rw [form?, form?, ← h.hasType, ← h.hasType, ← h.hasType, hwhole]

/-- **Every question about a node has the same answer** with comments put in. -/
theorem readAlike_of_same (h : SameBarComments a b) :
    Dialect.ReadAlike Eq treeSitter treeSitter a b where
  form := form?_eq h
  tags := Dialect.alike_tags (fun _ => rfl)
    ((forall₂_specifiers h).imp fun _ _ => namedAlike_of_same)
  hasSource := isSome_eq_of_rel (h.child? "source")
  source := h.fieldLiteral? "source"
  assertion := typeAttribute?_eq (forall₂_attributePairs h)
  dynamic := by
    rw [dynamicLink?_eq h]
    exact .refl (fun _ => rfl) _
  malformed := malformed_eq h

/-- **A comment makes no link**, and no warning. -/
theorem yields_comment {c : ParseNode} (h : c.IsComment) : treeSitter.Yields c [] := by
  refine Dialect.yields_nil ?_ fun child hchild => ?_
  · show form? c = none
    rw [form?, h.hasType_eq_false (by decide), h.hasType_eq_false (by decide),
      h.hasType_eq_false (by decide)]
    rfl
  · have hnone : treeSitter.children c = [] := h.childless
    rw [hnone] at hchild
    cases hchild

/-- Trees in a row contribute the same if each of them does. -/
theorem gather_interspersed {as bs : List ParseNode} (h : Interspersed WithComments free as bs)
    (heach : ∀ a ∈ as, ∀ b, SameBarComments a b →
      treeSitter.gather (treeSitter.preorder a) = treeSitter.gather (treeSitter.preorder b)) :
    treeSitter.gather (as.flatMap treeSitter.preorder)
      = treeSitter.gather (bs.flatMap treeSitter.preorder) := by
  induction h with
  | nil => rfl
  | @kept free a b as bs hab _ ih =>
    rw [List.forall_mem_cons] at heach
    rw [List.flatMap_cons, List.flatMap_cons, Dialect.gather_append, Dialect.gather_append,
      heach.1 b ⟨free, hab⟩, ih heach.2]
  | @added c as bs hc _ ih =>
    -- A comment contributes nothing, so the rest does what it did.
    have hnothing : treeSitter.gather (treeSitter.preorder c) = pure [] := yields_comment hc
    rw [List.flatMap_cons, Dialect.gather_append, hnothing, ih heach]
    exact (bind_pure (treeSitter.gather (bs.flatMap treeSitter.preorder))).symm

/-- **A tree contributes what it does with comments.** -/
theorem gather_withComments (h : SameBarComments a b) :
    treeSitter.gather (treeSitter.preorder a) = treeSitter.gather (treeSitter.preorder b) := by
  induction a using treeSitter.tree_induction generalizing b with
  | step a ih =>
    obtain ⟨_, hchildren⟩ := h.children
    have hlink : treeSitter.link? a = treeSitter.link? b :=
      ((readAlike_of_same h).link? fun _ => rfl).eq
    -- The node contributes what it did, since all that is asked about it has the same answer.
    have hnode : treeSitter.contribution a = treeSitter.contribution b := by
      rw [Dialect.contribution, Dialect.contribution, hlink]
    have hbelow := gather_interspersed hchildren fun x hx y hxy => ih x hx hxy
    rw [treeSitter.preorder_eq a, treeSitter.preorder_eq b, Dialect.gather, Dialect.gather, hnode]
    exact congrArg (fun others : Logged (List Link) => treeSitter.contribution b >>= fun found =>
      others >>= fun rest => pure (found ++ rest)) hbelow

end TreeSitter

/-! ## Surveys -/

namespace TreeSitter

/-- The root of a program, or the report that it is none. -/
def acceptedRoot (node : ParseNode) : Except Failure ParseNode :=
  if node.hasType "program" then .ok node
  else .error (Dialect.unexpectedRoot "tree-sitter" (.str node.type))

/-- Two subjects whose roots are the same up to comments have the same survey, or the same report
that there is no program. -/
theorem survey_eq_of_acceptedRoot {a b : ParseNode} (file : Json) {subject subject' : Subject}
    (ha : treeSitter.root subject = acceptedRoot a) (hb : treeSitter.root subject' = acceptedRoot b)
    (h : ParseNode.SameBarComments a b) :
    treeSitter.survey file subject = treeSitter.survey file subject' := by
  rw [acceptedRoot] at ha
  rw [acceptedRoot, ← h.hasType, ← h.type] at hb
  split at ha
  · next htype =>
    rw [if_pos htype] at hb
    rw [treeSitter.survey_eq_gather file ha, treeSitter.survey_eq_gather file hb,
      gather_withComments h]
  · next htype =>
    rw [if_neg htype] at hb
    rw [Dialect.survey, Dialect.survey, ha, hb]

end TreeSitter

/-- **Comments change nothing.** A tree with comments put in has the same survey: the same links or
the same failure, and the same log. -/
theorem survey_withComments (file : Json) (root commented : ParseNode)
    (h : ParseNode.WithComments true root commented) :
    treeSitter.survey file (.tree root) = treeSitter.survey file (.tree commented)
      ∧ treeSitter.survey file (.node root) = treeSitter.survey file (.node commented) := by
  have hsame : root.SameBarComments commented := ⟨true, h⟩
  exact ⟨TreeSitter.survey_eq_of_acceptedRoot file rfl rfl hsame,
    TreeSitter.survey_eq_of_acceptedRoot file rfl rfl hsame⟩

/-- A program that imports a module while it runs, with the given arguments. -/
def importingProgram (arguments : List ParseNode) : ParseNode :=
  parsedNode "program" none 0 [] [parsedNode "call_expression" none 0 []
    [parsedNode "import" (some "function") 0 [] [],
      parsedNode "arguments" (some "arguments") 0 [] arguments]]

/-- The argument of the import, a plain string. -/
def chunkArgument : ParseNode :=
  parsedNode "string" none 0 [] [parsedNode "string_fragment" none 0 "./a.js".toList []]

/-- A comment that tells a bundler how to name what is imported. -/
def chunkComment : ParseNode :=
  parsedNode "comment" none 0 "/* webpackChunkName: 'a' */".toList []

/-- The comments stand in front of the argument and behind it. -/
theorem withComments_importingProgram :
    ParseNode.WithComments true (importingProgram [chunkArgument])
      (importingProgram [chunkComment, chunkArgument, chunkComment]) := by
  have hcomment : chunkComment.IsComment := ⟨rfl, rfl, rfl, rfl⟩
  have harguments : ParseNode.Interspersed ParseNode.WithComments true [chunkArgument]
      [chunkComment, chunkArgument, chunkComment] :=
    .added hcomment (.kept (ParseNode.withComments_refl _) (.added hcomment (.nil true)))
  have hcall : ParseNode.WithComments true
      (parsedNode "arguments" (some "arguments") 0 [] [chunkArgument])
      (parsedNode "arguments" (some "arguments") 0 []
        [chunkComment, chunkArgument, chunkComment]) :=
    .mk rfl rfl rfl nofun harguments
  refine .mk rfl rfl rfl nofun (.kept (.mk rfl rfl rfl nofun ?_) (.nil true))
  exact .kept (ParseNode.withComments_refl _) (.kept hcall (.nil true))

theorem survey_withComments_importingProgram :
    ParseNode.WithComments true (importingProgram [chunkArgument])
        (importingProgram [chunkComment, chunkArgument, chunkComment])
      ∧ treeSitter.survey .null (.tree (importingProgram [chunkArgument]))
        = treeSitter.survey .null
          (.tree (importingProgram [chunkComment, chunkArgument, chunkComment])) :=
  ⟨withComments_importingProgram,
    (survey_withComments .null _ _ withComments_importingProgram).1⟩

end ModuleLinks

/-
The survey of a module that is encoded as a parse tree.

What a parse tree says is found by types and by fields: a specifier is a named
child of the right type, its name is the child in the field for it, and the text
of that is its bytes, or what the pieces between its quotation marks denote. The
tokens between the nodes say nothing. So lists are read by dropping what is not
named, and the rest is as for object trees: what has no form and nothing but
such nodes below it is mute.

Main statement: `yields_program`.
-/
import ModuleLinks.Proofs.TreeEncoding

set_option autoImplicit false

namespace ModuleLinks.ParseTree

open Code

variable {placement : Placement} {address : List ℕ} {field : Option String}

/-! ## Names and strings -/

/-- A leaf is read as the characters that it was written from. -/
theorem text_leaf (type : String) (chars : List Char) :
    (leaf placement type field chars address).text = .ok (Text.ofChars chars) := by
  have hdecode : Utf8.decode? (leaf placement type field chars address).bytes
      = some (Text.ofChars chars) := Utf8.decode?_encode chars
  rw [ParseNode.text, hdecode]

/-- A piece of a string says what it stands for, also where it is an escape. -/
theorem piece_piece (x : Piece) :
    ParseNode.piece (piece placement x address) = .ok (Text.ofChars x.chars) := by
  cases x with
  | run chars => exact text_leaf "string_fragment" chars
  | escape written denoted decodes =>
    show (do Escape.decode (← (leaf placement "escape_sequence" none written address).text)) = _
    rw [text_leaf]
    exact decodes

/-- **The text of a string** is that of its pieces, without the quotation marks. -/
theorem literal?_literal (l : Literal) :
    (literal placement field l address).literal? = .ok (some l.text) := by
  have hpieces : (grow address 1 (l.pieces.map (piece placement))).mapM ParseNode.piece
      = .ok (l.pieces.map fun x => Text.ofChars x.chars) :=
    mapM_of_forall₂ (forall₂_grow (piece placement) (fun x _ => piece_piece x) l.pieces address 1)
  -- A quotation mark is a piece too, and contributes nothing.
  have hall : (literal placement field l address).children.mapM ParseNode.piece
      = .ok ([] :: (l.pieces.map (fun x => Text.ofChars x.chars) ++ [[]])) := by
    show List.mapM ParseNode.piece (token placement "\x22" _ :: grow address 1 (_ ++ _)) = _
    rw [List.mapM_cons, grow_append, List.mapM_append, hpieces]
    rfl
  have htext : ([] :: (l.pieces.map (fun x => Text.ofChars x.chars) ++ [[]])).flatten = l.text := by
    simp [Literal.text, Literal.chars, Text.ofChars, List.flatMap_def, List.map_flatten,
      List.map_map, Function.comp_def]
  rw [ParseNode.literal?]
  show (do return some (← (literal placement field l address).children.mapM _).flatten) = _
  rw [hall]
  exact congrArg (fun t => Except.ok (some t)) htext

/-- **The text of a name** is read from either form. -/
theorem spelledName_name {type : String} (htype : type ≠ "string") (n : Name) :
    (name placement type field n address).spelledName = .ok (.str n.text) := by
  cases n with
  | identifier chars =>
    -- The node of an identifier is no string, so it is taken as it is written.
    have hne : (leaf placement type field chars address).hasType "string" = false := by
      rw [Bool.eq_false_iff]
      exact fun h => htype (Text.ofString_inj.1 ((Text.is_iff _ _).1 h))
    show ParseNode.spelledName (leaf placement type field chars address) = _
    rw [ParseNode.spelledName, hne, if_neg Bool.false_ne_true, text_leaf]
    rfl
  | string l =>
    show (literal placement field l address).literal?.map Json.ofText? = _
    rw [literal?_literal]
    rfl

/-! ## Rows of nodes -/

section Rows

variable {α : Type} {R : α → ParseNode → Prop} {make : α → Planted ParseNode}

/-- **Commas are no named nodes**, so they do not count among the nodes between
which they stand. -/
theorem forall₂_separated (h : ∀ value a, R value (make value a))
    (hnamed : ∀ value a, (make value a).isNamed = true) (values : List α) (i : ℕ) :
    List.Forall₂ R values
      ((grow address i (separated placement (values.map make))).filter ParseNode.isNamed) := by
  induction values generalizing i with
  | nil => exact .nil
  | cons value rest ih =>
    cases rest with
    | nil =>
      show List.Forall₂ R [value] (List.filter ParseNode.isNamed [make value _])
      rw [List.filter_cons_of_pos (hnamed value _)]
      exact .cons (h value _) .nil
    -- A node, a comma, and then a shorter row that begins two places further.
    | cons next rest =>
      show List.Forall₂ R _ (List.filter ParseNode.isNamed
        (make value _ :: token placement "," _
          :: grow address (i + 1 + 1) (separated placement ((next :: rest).map make))))
      rw [List.filter_cons_of_pos (hnamed value _), List.filter_cons_of_neg Bool.false_ne_true]
      exact .cons (h value _) (ih (i + 1 + 1))

/-- Nor are the braces around them. -/
theorem forall₂_braced (h : ∀ value a, R value (make value a))
    (hnamed : ∀ value a, (make value a).isNamed = true) (values : List α) :
    List.Forall₂ R values
      ((grow address 0 (braced placement (values.map make))).filter ParseNode.isNamed) := by
  have hrow : (grow address 0 (braced placement (values.map make))).filter ParseNode.isNamed
      = (grow address 1 (separated placement (values.map make))).filter ParseNode.isNamed := by
    show List.filter ParseNode.isNamed (token placement "\x7b" _ :: grow address 1 (_ ++ _)) = _
    rw [List.filter_cons_of_neg Bool.false_ne_true, grow_append, List.filter_append]
    show _ ++ List.filter ParseNode.isNamed [token placement "\x7d" _] = _
    rw [List.filter_cons_of_neg Bool.false_ne_true, List.filter_nil, List.append_nil]
  rw [hrow]
  exact forall₂_separated h hnamed values 1

/-- **The named children of a type** between braces, if all are of that type. -/
theorem forall₂_namedChildrenOf {type kind : String} (h : ∀ value a, R value (make value a))
    (hnamed : ∀ value a, (make value a).isNamed = true)
    (htype : ∀ value a, (make value a).hasType kind = true) (values : List α) :
    List.Forall₂ R values
      ((plainBranch placement type field (braced placement (values.map make))
        address).namedChildrenOf kind) := by
  have hall : List.Forall₂ (fun value node => R value node ∧ node.hasType kind = true) values
      ((plainBranch placement type field (braced placement (values.map make))
        address).namedChildren) :=
    forall₂_braced (fun value a => ⟨h value a, htype value a⟩) hnamed values
  -- Every node between the braces has the type, so the second filter drops nothing.
  have hkind : ∀ node ∈ (plainBranch placement type field (braced placement (values.map make))
      address).namedChildren, node.hasType kind = true := by
    intro node hnode
    obtain ⟨i, hi, rfl⟩ := List.getElem_of_mem hnode
    exact (hall.get (by rw [hall.length_eq]; exact hi) hi).2
  rw [ParseNode.namedChildrenOf, List.filter_eq_self.2 hkind]
  exact hall.imp fun _ _ hnode => hnode.1

end Rows

/-! ## Tags -/

/-- A specifier has its name in a field. -/
theorem child?_name (type : String) (first : Name) (second : Option Name) :
    (aliased placement type first second address).child? "name"
      = some (name placement "identifier" (some "name") first (address ++ [0])) := by
  cases first <;> rfl

/-- It has a second name in another field if there is an alias. -/
theorem child?_alias (type : String) (first : Name) (second : Option Name) :
    (aliased placement type first second address).child? "alias"
      = second.map fun other =>
          name placement "identifier" (some "alias") other (address ++ [2]) := by
  cases second with
  | none => cases first <;> rfl
  | some other => cases first <;> cases other <;> rfl

/-- An identifier in an import clause takes the default export. -/
theorem tag_identifier (bound : List Char) :
    treeSitter.tag (leaf placement "identifier" field bound address) = .ok Link.defaultTag :=
  Dialect.tag_default rfl

/-- A specifier of a name has that name for its tag, whatever its alias. -/
theorem tag_importSpecifier (imported : Name) (bound : Option Name) :
    treeSitter.tag (aliased placement "import_specifier" imported bound address)
      = .ok (.str imported.text) := by
  have hname : treeSitter.importedName
      (aliased placement "import_specifier" imported bound address)
        = .ok (.str imported.text) := by
    show ParseNode.spelledName? ((aliased placement "import_specifier" imported bound address).child?
      "name") = _
    rw [child?_name]
    exact spelledName_name (by decide) imported
  exact Dialect.tag_oneName rfl rfl (Dialect.firstName_imported hname)

/-- **An exported name** is tagged with what it takes, unless it is exported as
`default`. -/
theorem tag_exportSpecifier (b : Binding) :
    treeSitter.tag (aliased placement "export_specifier" b.original b.alias? address)
      = .ok b.tag := by
  have htaken : treeSitter.takenName (aliased placement "export_specifier" b.original b.alias? address)
      = .ok (.str b.original.text) := by
    show ParseNode.spelledName? ((aliased placement "export_specifier" b.original b.alias?
      address).child? "name") = _
    rw [child?_name]
    exact spelledName_name (by decide) b.original
  have hexported : treeSitter.exportedName
      (aliased placement "export_specifier" b.original b.alias? address)
        = .ok (.str b.exported.text) := by
    show ParseNode.spelledName? (Option.or ((aliased placement "export_specifier" b.original b.alias?
      address).child? "alias") (ParseNode.child? _ "name")) = _
    rw [child?_alias, child?_name]
    obtain ⟨original, alias?⟩ := b
    -- The alias is the exported name, and where there is none the name itself.
    cases alias? with
    | none => exact spelledName_name (by decide) original
    | some other => exact spelledName_name (by decide) other
  exact Dialect.tag_oneName rfl hexported (Dialect.firstName_taken rfl htaken)

/-- The parts of a clause are rules of the grammar, unlike the commas between them. -/
theorem isNamed_part (x : Part) (a : List ℕ) : (part placement x a).isNamed = true := by
  cases x <;> rfl

/-- The specifiers of a part have their tags, in order. -/
theorem forall₂_partSpecifiers (x : Part) (a : List ℕ) :
    List.Forall₂ (fun s spec => treeSitter.tag spec = .ok (Specifier.tag s)) x.specifiers
      (TreeSitter.partSpecifiers (part placement x a)) := by
  cases x with
  | defaultBinding bound => exact .cons (tag_identifier bound) .nil
  | namespaceBinding bound => exact .cons (Dialect.tag_namespace rfl rfl) .nil
  | named group =>
    rw [Part.specifiers, List.forall₂_map_left_iff]
    exact forall₂_namedChildrenOf (fun entry b => tag_importSpecifier entry.1 entry.2)
      (fun _ _ => rfl) (fun _ _ => rfl) group

/-- So have those of a clause: the commas are passed over. -/
theorem forall₂_importClause (parts : List Part) (a : List ℕ) :
    List.Forall₂ (fun s spec => treeSitter.tag spec = .ok (Specifier.tag s))
      (parts.flatMap Part.specifiers)
      (TreeSitter.clauseSpecifiers (plainBranch placement "import_clause" none
        (separated placement (parts.map (part placement))) a)) := by
  have hparts : List.Forall₂
      (fun x node => List.Forall₂ (fun s spec => treeSitter.tag spec = .ok (Specifier.tag s))
        (Part.specifiers x) (TreeSitter.partSpecifiers node)) parts
      (ParseNode.namedChildren (plainBranch placement "import_clause" none
        (separated placement (parts.map (part placement))) a)) :=
    forall₂_separated forall₂_partSpecifiers isNamed_part parts 0
  exact List.rel_flatMap hparts fun _ _ hnode => hnode

theorem forall₂_exportClause (bindings : List Binding) (a : List ℕ) :
    List.Forall₂ (fun b spec => treeSitter.tag spec = .ok (Binding.tag b)) bindings
      (TreeSitter.clauseSpecifiers (exportClause placement bindings a)) :=
  forall₂_namedChildrenOf (fun b _ => tag_exportSpecifier b) (fun _ _ => rfl) (fun _ _ => rfl)
    bindings

/-! ## Declarations -/

/-- **The pair of an attribute** has its key and its value in fields. -/
theorem reads_pair (x : Attribute) (a : List ℕ) :
    ParseNode.spelledName? ((pair placement x a).child? "key") = .ok (.str x.key.text)
      ∧ (pair placement x a).fieldLiteral? "value" = .ok (some x.value.text) := by
  have hkey : (pair placement x a).child? "key"
      = some (name placement "property_identifier" (some "key") x.key (a ++ [0])) := by
    obtain ⟨key, value⟩ := x
    cases key <;> rfl
  have hvalue : (pair placement x a).child? "value"
      = some (literal placement (some "value") x.value (a ++ [2])) := by
    obtain ⟨key, value⟩ := x
    cases key <;> rfl
  rw [hkey, ParseNode.fieldLiteral?, hvalue]
  exact ⟨spelledName_name (by decide) x.key, literal?_literal x.value⟩

/-- Pairs that spell attributes assert what the attributes assert. -/
theorem typeAttribute?_of_forall₂ {attributes : List Attribute} {pairs : List ParseNode}
    (h : List.Forall₂ (fun x node =>
      ParseNode.spelledName? (node.child? "key") = .ok (.str x.key.text)
        ∧ node.fieldLiteral? "value" = .ok (some x.value.text)) attributes pairs) :
    TreeSitter.typeAttribute? pairs = .ok (assertion? attributes) := by
  induction h with
  | nil => rfl
  | @cons x node rest others hhead _ ih =>
    rw [TreeSitter.typeAttribute?, hhead.1, assertion?_cons]
    show (if x.key.text.is "type" = true then _ else _) = _
    -- The first pair decides if its key is the one looked for.
    by_cases htype : x.key.text.is "type" = true
    · rw [if_pos htype, if_pos htype]
      exact hhead.2
    · rw [if_neg htype, if_neg htype]
      exact ih

/-- **The type that a declaration asserts** is that of its attribute clause. -/
theorem assertion?_of_clause {node : ParseNode} {attributes : List Attribute} {i : ℕ}
    (h : node.namedChildrenOf "import_attribute"
      = grow address i (attributeClause placement attributes)) :
    treeSitter.assertion? node = .ok (assertion? attributes) := by
  apply typeAttribute?_of_forall₂
  rw [TreeSitter.attributePairs, h]
  cases attributes with
  | nil => exact .nil
  | cons x rest =>
    show List.Forall₂ _ _ ((ParseNode.namedChildrenOf (plainBranch placement "object" none
      (braced placement ((x :: rest).map (pair placement))) _) "pair" ++ []) ++ [])
    rw [List.append_nil, List.append_nil]
    exact forall₂_namedChildrenOf reads_pair (fun _ _ => rfl) (fun _ _ => rfl) (x :: rest)

/-- **What a declaration says of the other module**, by its source and its
attribute clause. -/
theorem refers_of_source {node source : ParseNode} {t : Text} {attributes : List Attribute} {i : ℕ}
    (hsource : node.child? "source" = some source) (hliteral : source.literal? = .ok (some t))
    (ht : t ≠ [])
    (hclause : node.namedChildrenOf "import_attribute"
      = grow address i (attributeClause placement attributes)) :
    treeSitter.Refers node t (assertion? attributes) where
  reads_source := by
    show ParseNode.fieldLiteral? node "source" = _
    rw [ParseNode.fieldLiteral?, hsource]
    exact hliteral
  nonempty := ht
  reads_assertion := assertion?_of_clause hclause

/-- A statement with a source and an attribute clause refers to the source and asserts what the
clause says. -/
theorem refers_of_children {node : ParseNode} {source : Source} {attributes : List Attribute}
    {a : List ℕ} {i : ℕ}
    (hsource : node.child? "source" = some (literal placement (some "source") source.toLiteral a))
    (hclause : node.namedChildrenOf "import_attribute"
      = grow address i (attributeClause placement attributes)) :
    treeSitter.Refers node source.text (assertion? attributes) :=
  refers_of_source hsource (literal?_literal source.toLiteral)
    (fun h => source.chars_ne (List.map_eq_nil_iff.1 h)) hclause

/-- **The visit of an import makes its link.** -/
theorem link?_importing (clause : List Part) (source : Source) (attributes : List Attribute) :
    treeSitter.link? (item placement (.importing clause source attributes) address)
      = .ok (Item.importing clause source attributes).link? := by
  have hrefers : treeSitter.Refers (item placement (.importing clause source attributes) address)
      source.text (assertion? attributes) := by
    -- Without a clause the source is the second child, with one it is the fourth.
    cases clause with
    | nil =>
      have hclause : (item placement (.importing [] source attributes) address).namedChildrenOf
          "import_attribute" = grow address 2 (attributeClause placement attributes) := by
        cases attributes <;> rfl
      exact refers_of_children rfl hclause
    | cons x rest =>
      have hclause : (item placement (.importing (x :: rest) source attributes)
          address).namedChildrenOf "import_attribute"
            = grow address 4 (attributeClause placement attributes) := by
        cases attributes <;> rfl
      exact refers_of_children rfl hclause
  have htags : treeSitter.tags (item placement (.importing clause source attributes) address)
      = .ok (tagsOf Specifier.tag (clause.flatMap Part.specifiers)) := by
    apply Dialect.tags_of_forall₂
    cases clause with
    | nil => cases attributes <;> exact .nil
    | cons x rest =>
      have hspecifiers : treeSitter.specifiers
          (item placement (.importing (x :: rest) source attributes) address)
            = TreeSitter.clauseSpecifiers (plainBranch placement "import_clause" none
                (separated placement ((x :: rest).map (part placement))) (address ++ [1])) := by
        cases attributes <;> exact List.append_nil _
      rw [hspecifiers]
      exact forall₂_importClause (x :: rest) _
  exact hrefers.link?_import rfl htags

/-- **The visit of a re-export makes its link.** -/
theorem link?_reexport (bindings : List Binding) (source : Source) (attributes : List Attribute) :
    treeSitter.link? (item placement (.reexport bindings source attributes) address)
      = .ok (Item.reexport bindings source attributes).link? := by
  have hclause : (item placement (.reexport bindings source attributes) address).namedChildrenOf
      "import_attribute" = grow address 4 (attributeClause placement attributes) := by
    cases attributes <;> rfl
  have hrefers : treeSitter.Refers (item placement (.reexport bindings source attributes) address)
      source.text (assertion? attributes) := refers_of_children rfl hclause
  have hform : treeSitter.form? (item placement (.reexport bindings source attributes) address)
      = some .namedExport := by
    cases attributes <;> rfl
  have htags : treeSitter.tags (item placement (.reexport bindings source attributes) address)
      = .ok (tagsOf Binding.tag bindings) := by
    apply Dialect.tags_of_forall₂
    have hspecifiers : treeSitter.specifiers
        (item placement (.reexport bindings source attributes) address)
          = TreeSitter.clauseSpecifiers (exportClause placement bindings (address ++ [1])) := by
      cases attributes <;> exact List.append_nil _
    rw [hspecifiers]
    exact forall₂_exportClause bindings _
  exact hrefers.link?_namedExport hform rfl htags

/-- **The visit of an export of everything makes its link**, since its star is one of the
children. -/
theorem link?_reexportAll (source : Source) (attributes : List Attribute) :
    treeSitter.link? (item placement (.reexportAll source attributes) address)
      = .ok (Item.reexportAll source attributes).link? := by
  have hclause : (item placement (.reexportAll source attributes) address).namedChildrenOf
      "import_attribute" = grow address 4 (attributeClause placement attributes) := by
    cases attributes <;> rfl
  have hrefers : treeSitter.Refers (item placement (.reexportAll source attributes) address)
      source.text (assertion? attributes) := refers_of_children rfl hclause
  exact hrefers.link?_wholeExport rfl rfl

/-! ## Mute trees -/

/-- **A mute tree** yields nothing, wherever it is planted. -/
def Mute (tree : Planted ParseNode) : Prop := ∀ a, treeSitter.Yields (tree a) []

/-- A node has no form if its type is none of those with one. -/
theorem form?_of_type {node : ParseNode} (h : node.type.isOneOf treeForms = false) :
    treeSitter.form? node = none := by
  have himport : node.hasType "import_statement" = false := Text.is_eq_false h (by decide)
  have hexport : node.hasType "export_statement" = false := Text.is_eq_false h (by decide)
  have hcall : node.hasType "call_expression" = false := Text.is_eq_false h (by decide)
  show TreeSitter.form? node = none
  simp [TreeSitter.form?, himport, hexport, hcall]

/-- **A node without a form** is mute if its children are. -/
theorem mute_node {type : Text} {isNamed : Bool} {bytes : List UInt8}
    {children : List (Planted ParseNode)} (htype : type.isOneOf treeForms = false)
    (h : ∀ child ∈ children, Mute child) :
    Mute (node placement type isNamed field bytes children) := by
  intro a
  exact Dialect.yields_nil (form?_of_type htype) (forall_mem_grow h a 0)

/-- A node of a type that refers to nothing, around mute nodes, is mute. -/
theorem mute_branch {type : Text} {children : List (Planted ParseNode)}
    (htype : type.isOneOf treeForms = false) (h : ∀ child ∈ children, Mute child) :
    Mute (branch placement type field children) :=
  fun a => mute_node htype h a

/-- Tokens are mute, and so are leaves. -/
theorem mute_token {word : String} (h : (Text.ofString word).isOneOf treeForms = false) :
    Mute (token placement word) :=
  mute_node h nofun

theorem mute_leaf {type : String} (chars : List Char)
    (h : (Text.ofString type).isOneOf treeForms = false) :
    Mute (leaf placement type field chars) :=
  mute_node h nofun

/-- Commas between mute nodes change nothing, and braces around them do not either. -/
theorem mute_separated {items : List (Planted ParseNode)} (h : ∀ tree ∈ items, Mute tree) :
    ∀ tree ∈ separated placement items, Mute tree := by
  induction items with
  | nil => exact nofun
  | cons first rest ih =>
    obtain ⟨hfirst, hrest⟩ := List.forall_mem_cons.1 h
    cases rest with
    | nil => exact List.forall_mem_singleton.2 hfirst
    | cons next rest =>
      exact List.forall_mem_cons.2
        ⟨hfirst, List.forall_mem_cons.2 ⟨mute_token rfl, ih hrest⟩⟩

theorem mute_braced {items : List (Planted ParseNode)} (h : ∀ tree ∈ items, Mute tree) :
    ∀ tree ∈ braced placement items, Mute tree := by
  refine List.forall_mem_cons.2 ⟨mute_token rfl, List.forall_mem_append.2 ⟨mute_separated h, ?_⟩⟩
  exact List.forall_mem_singleton.2 (mute_token rfl)

theorem mute_map {α : Type} {make : α → Planted ParseNode} (h : ∀ value, Mute (make value))
    (values : List α) : ∀ tree ∈ values.map make, Mute tree := by
  intro tree htree
  obtain ⟨value, _, rfl⟩ := List.mem_map.1 htree
  exact h value

theorem mute_piece (x : Piece) : Mute (piece placement x) := by
  cases x with
  | run chars => exact mute_leaf chars rfl
  | escape written _ _ => exact mute_leaf written rfl

/-- A string is mute, and so is a name. -/
theorem mute_literal (l : Literal) : Mute (literal placement field l) := by
  apply mute_branch rfl
  refine List.forall_mem_cons.2
    ⟨mute_token rfl, List.forall_mem_append.2 ⟨mute_map mute_piece l.pieces, ?_⟩⟩
  exact List.forall_mem_singleton.2 (mute_token rfl)

theorem mute_name {type : String} (htype : (Text.ofString type).isOneOf treeForms = false)
    (n : Name) : Mute (name placement type field n) := by
  cases n with
  | identifier chars => exact mute_leaf chars htype
  | string l => exact mute_literal l

theorem mute_aliased {type : String} (htype : (Text.ofString type).isOneOf treeForms = false)
    (first : Name) (second : Option Name) : Mute (aliased placement type first second) := by
  apply mute_branch htype
  refine List.forall_mem_cons.2 ⟨mute_name rfl first, ?_⟩
  cases second with
  | none => exact nofun
  | some other =>
    exact List.forall_mem_cons.2
      ⟨mute_token rfl, List.forall_mem_singleton.2 (mute_name rfl other)⟩

theorem mute_part (x : Part) : Mute (part placement x) := by
  cases x with
  | defaultBinding bound => exact mute_leaf bound rfl
  | namespaceBinding bound =>
    apply mute_branch rfl
    exact List.forall_mem_cons.2 ⟨mute_token rfl, List.forall_mem_cons.2
      ⟨mute_token rfl, List.forall_mem_singleton.2 (mute_leaf bound rfl)⟩⟩
  | named group =>
    exact mute_branch rfl (mute_braced (mute_map (fun _ => mute_aliased rfl _ _) group))

/-- An import clause and the word behind it are mute. -/
theorem mute_importClause (parts : List Part) :
    ∀ tree ∈ importClause placement parts, Mute tree := by
  cases parts with
  | nil => exact nofun
  | cons x rest =>
    exact List.forall_mem_cons.2
      ⟨mute_branch rfl (mute_separated (mute_map mute_part (x :: rest))),
        List.forall_mem_singleton.2 (mute_token rfl)⟩

theorem mute_exportClause (bindings : List Binding) : Mute (exportClause placement bindings) :=
  mute_branch rfl (mute_braced (mute_map (fun _ => mute_aliased rfl _ _) bindings))

theorem mute_pair (x : Attribute) : Mute (pair placement x) := by
  apply mute_branch rfl
  exact List.forall_mem_cons.2 ⟨mute_name rfl x.key, List.forall_mem_cons.2
    ⟨mute_token rfl, List.forall_mem_singleton.2 (mute_literal x.value)⟩⟩

/-- A clause of attributes holds names and strings. -/
theorem mute_attributeClause (attributes : List Attribute) :
    ∀ tree ∈ attributeClause placement attributes, Mute tree := by
  cases attributes with
  | nil => exact nofun
  | cons x rest =>
    have hobject : Mute (plainBranch placement "object" none
        (braced placement ((x :: rest).map (pair placement)))) :=
      mute_branch rfl (mute_braced (mute_map mute_pair (x :: rest)))
    have hchildren : ∀ tree ∈ [token placement "with", plainBranch placement "object" none
        (braced placement ((x :: rest).map (pair placement)))], Mute tree :=
      List.forall_mem_cons.2 ⟨mute_token rfl, List.forall_mem_singleton.2 hobject⟩
    exact List.forall_mem_singleton.2 (mute_branch rfl hchildren)

/-- The rest of a declaration, from its source on, is mute. -/
theorem mute_ending (source : Source) (attributes : List Attribute) :
    ∀ tree ∈ ending placement source attributes, Mute tree := by
  refine List.forall_mem_cons.2 ⟨mute_literal source.toLiteral, List.forall_mem_append.2
    ⟨mute_attributeClause attributes, ?_⟩⟩
  exact List.forall_mem_singleton.2 (mute_token rfl)

/-- **A node that is no reference** makes no link. -/
theorem link?_of_not_isReference {node : ParseNode} (h : node.isReference = false) :
    treeSitter.link? node = .ok none := by
  rw [ParseNode.isReference, Bool.or_eq_false_iff] at h
  obtain ⟨htype, hkeyword⟩ := h
  have himport : node.hasType "import_statement" = false := Text.is_eq_false htype (by decide)
  have hexport : node.hasType "export_statement" = false := Text.is_eq_false htype (by decide)
  cases hcall : node.hasType "call_expression" with
  | false =>
    have hform : treeSitter.form? node = none := by
      show TreeSitter.form? node = none
      simp [TreeSitter.form?, himport, hexport, hcall]
    rw [Dialect.link?, hform]
  | true =>
    rw [hcall, Bool.true_and] at hkeyword
    apply Dialect.link?_of_not_isDynamicImport
    · show TreeSitter.form? node = some .importCall
      simp [TreeSitter.form?, himport, hexport, hcall]
    · show TreeSitter.isDynamicImport node = false
      rw [TreeSitter.isDynamicImport, hcall, Bool.true_and]
      cases hfunction : node.child? "function" with
      | none => rfl
      | some function => rwa [hfunction] at hkeyword

/-- **A tree without references** is mute. -/
theorem mute_tree (tree : Tree) : Mute tree.planted := by
  intro a
  apply Dialect.gather_of_link?
  exact fun inner hinner => link?_of_not_isReference (tree.isFree a inner hinner)

/-- What a dynamic import is called with refers to nothing itself, computed or not. -/
theorem mute_argument (x : Argument) : Mute (argument placement x) := by
  cases x with
  | literal source => exact mute_literal source.toLiteral
  | computed expression => exact mute_tree expression.tree

/-! ## Dynamic imports -/

/-- What a dynamic import is called with is found between the parentheses. -/
theorem importArgument?_importCall (x : Argument) :
    ∃ a, treeSitter.importArgument? (importCall placement (argument placement x) field address)
      = .ok (some (argument placement x a)) := by
  refine ⟨address ++ [1] ++ [1], ?_⟩
  have hnamed : (argument placement x (address ++ [1] ++ [1])).isNamed = true := by
    cases x with
    | literal source => rfl
    | computed expression => exact expression.tree_isNode _
  have hcomment : (argument placement x (address ++ [1] ++ [1])).hasType "comment" = false := by
    cases x with
    | literal source => rfl
    | computed expression => exact Text.is_eq_false (expression.tree_isPlain _) (by decide)
  show Except.ok (List.find? (fun child : ParseNode => !child.hasType "comment")
    (List.filter ParseNode.isNamed [token placement "(" _, argument placement x _,
      token placement ")" _])) = _
  rw [List.filter_cons_of_neg Bool.false_ne_true, List.filter_cons_of_pos hnamed,
    List.find?_cons, hcomment]
  rfl

/-- Read as a string, an argument is its source, or nothing if it is computed. -/
theorem literal?_argument (x : Argument) :
    treeSitter.literal? (argument placement x address) = .ok x.text? := by
  cases x with
  | literal source => exact literal?_literal source.toLiteral
  | computed expression =>
    have hstring : (expression.tree.planted address).hasType "string" = false :=
      Text.is_eq_false (expression.tree_isPlain address) (by decide)
    show ParseNode.literal? (expression.tree.planted address) = .ok none
    rw [ParseNode.literal?, hstring]
    rfl

/-- **A dynamic import yields its link**, with the mark of a computed source if its argument is
one. -/
theorem yields_importCall (x : Argument) :
    treeSitter.Yields (importCall placement (argument placement x) field address)
      [{ specifiers := [Link.defaultTag], source := x.text?.elim Link.computedSource .str }] := by
  have hexists : ∃ a, treeSitter.importArgument?
      (importCall placement (argument placement x) field address)
        = .ok (some (argument placement x a)) := importArgument?_importCall x
  obtain ⟨a, hargument⟩ := hexists
  have hlink := Dialect.link?_dynamicImport (.inl rfl) rfl hargument (literal?_argument x) x.text?_ne
  apply Dialect.yields_of_link? hlink
  -- Neither the keyword nor what stands between the parentheses yields anything of its own.
  have hmute : ∀ tree ∈ [leaf placement "import" (some "function") "import".toList,
      plainBranch placement "arguments" (some "arguments")
        [token placement "(", argument placement x, token placement ")"]], Mute tree := by
    refine List.forall_mem_cons.2 ⟨mute_leaf _ rfl, List.forall_mem_singleton.2 ?_⟩
    apply mute_branch rfl
    exact List.forall_mem_cons.2 ⟨mute_token rfl, List.forall_mem_cons.2
      ⟨mute_argument x, List.forall_mem_singleton.2 (mute_token rfl)⟩⟩
  exact forall_mem_grow hmute address 0

/-- **A node around another tree** yields what the other tree yields. -/
theorem yields_wrap {w : TreeWrapper} {inner : Option String → Planted ParseNode}
    {links : List Link} (hinner : ∀ place a, treeSitter.Yields (inner place a) links)
    (a : List ℕ) : treeSitter.Yields (wrap placement w inner field a) links := by
  have hmute : ∀ (trees : List Tree) (i : ℕ), ∀ child ∈ grow a i (trees.map Tree.planted),
      treeSitter.Yields child [] := fun trees => forall_mem_grow_map mute_tree trees a
  have hchildren : treeSitter.children (wrap placement w inner field a)
      = grow a 0 (w.before.map Tree.planted)
        ++ inner w.field (a ++ [0 + (w.before.map Tree.planted).length])
          :: grow a (0 + (w.before.map Tree.planted).length + 1) (w.after.map Tree.planted) :=
    grow_append a 0 _ _
  exact Dialect.yields_around (form?_of_type w.type_isFree) (.of_eq hchildren)
    (hmute w.before 0) (hmute w.after _) (hinner _ _)

/-! ## Items and the module -/

/-- **A statement around mute nodes yields the link that its visit makes**, and nothing more. -/
theorem yields_of_mute {type : String} {children : List (Planted ParseNode)} {link : Option Link}
    (h : ∀ child ∈ children, Mute child)
    (hlink : treeSitter.link? (plainBranch placement type field children address) = .ok link) :
    treeSitter.Yields (plainBranch placement type field children address) link.toList := by
  exact Dialect.yields_of_link? hlink (forall_mem_grow h address 0)

/-- **An item yields its link**, if it makes one. -/
theorem yields_item (it : Item) (a : List ℕ) :
    treeSitter.Yields (item placement it a) it.link?.toList := by
  cases it with
  | importing clause source attributes =>
    refine yields_of_mute ?_ (link?_importing clause source attributes)
    exact List.forall_mem_cons.2 ⟨mute_token rfl,
      List.forall_mem_append.2 ⟨mute_importClause clause, mute_ending source attributes⟩⟩
  | reexport bindings source attributes =>
    refine yields_of_mute ?_ (link?_reexport bindings source attributes)
    exact List.forall_mem_cons.2 ⟨mute_token rfl, List.forall_mem_cons.2
      ⟨mute_exportClause bindings, List.forall_mem_cons.2
        ⟨mute_token rfl, mute_ending source attributes⟩⟩⟩
  | reexportAll source attributes =>
    refine yields_of_mute ?_ (link?_reexportAll source attributes)
    exact List.forall_mem_cons.2 ⟨mute_token rfl, List.forall_mem_cons.2
      ⟨mute_token rfl, List.forall_mem_cons.2
        ⟨mute_token rfl, mute_ending source attributes⟩⟩⟩
  | exportList bindings =>
    refine yields_of_mute ?_ (Dialect.link?_of_not_hasSource rfl rfl)
    exact List.forall_mem_cons.2 ⟨mute_token rfl, List.forall_mem_cons.2
      ⟨mute_exportClause bindings, List.forall_mem_singleton.2 (mute_token rfl)⟩⟩
  | dynamic around x =>
    have hall : ∀ (wrappers : List TreeWrapper) (place : Option String) (b : List ℕ),
        treeSitter.Yields
          (wrappers.foldr (wrap placement) (importCall placement (argument placement x)) place b)
          (Item.dynamic around x).link?.toList := by
      intro wrappers
      induction wrappers with
      | nil => exact fun place b => yields_importCall x
      | cons w rest ih => exact fun place b => yields_wrap ih b
    exact hall around.tree none a

theorem root_program (items : List Item) :
    treeSitter.root (.tree (program placement items)) = .ok (program placement items) :=
  rfl

/-- **A program yields the links of the module.** -/
theorem yields_program (items : List Item) :
    treeSitter.Yields (program placement items) (links items) := by
  have hitems : List.Forall₂ (fun it node => treeSitter.Yields node (Item.link? it).toList)
      items (treeSitter.children (program placement items)) :=
    forall₂_grow (item placement) yields_item items [] 0
  exact Dialect.yields_filterMap rfl hitems

end ModuleLinks.ParseTree

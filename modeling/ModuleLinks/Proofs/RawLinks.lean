/-
What a survey makes of a declaration.

A survey fills a link in from one node, and how it does so depends on the form of the node.
Imports and exports with bindings have a tag for each specifier, in order, or the tag of a file if
there is none; exports of everything and dynamic imports have one tag of their own. A declaration
that names no module makes no link at all.

Names are values in some trees, and nothing there says that they are texts. A tag is a text for
certain where the dialect takes nothing but texts for names, and otherwise if the names in the
tree are texts or missing. Names stand in identifiers and strings, which are nodes of the tree
like any other, so it is enough to look at the nodes that the survey visits.

Main statement: `made_of_survey`.
-/
import ModuleLinks.Proofs.Document
import ModuleLinks.Proofs.LinkTargets
import ModuleLinks.Proofs.SourceOrder

set_option autoImplicit false

namespace ModuleLinks

namespace Json

theorem exists_ofString (word : String) : ∃ t, ofString word = .str t := ⟨_, rfl⟩

theorem isTextOrNull_ofText? (t? : Option Text) : (ofText? t?).isTextOrNull = true := by
  cases t? <;> rfl

end Json

namespace Dialect

variable {ν : Type} {d : Dialect ν} {node spec : ν} {link : Link} {tags : List Json} {tag : Json}

/-! ## Tags -/

/-- **The tags of a declaration**: one for each specifier, in order, or that of a file. -/
inductive TagsOf (d : Dialect ν) (node : ν) : List Json → Prop where
  | file (hnone : d.specifiers node = []) : TagsOf d node [Link.fileTag]
  | each {tags : List Json} (hsome : d.specifiers node ≠ [])
      (htags : List.Forall₂ (fun spec tag => d.tag spec = .ok tag) (d.specifiers node) tags) :
      TagsOf d node tags

/-- The tags that a survey gives are one for each specifier. -/
theorem tagsOf_of_tags (h : d.tags node = .ok tags) : d.TagsOf node tags := by
  unfold Dialect.tags at h
  split at h
  · next hnone =>
    obtain rfl := Except.ok.inj h
    exact .file hnone
  · next hsome => exact .each hsome (Outcome.mapM_eq_ok.1 h)

/-! ## Declarations that name no module -/

/-- **A declaration that names no module**: it has no source, or none that is a literal with
something in it. -/
structure NamesNoModule (d : Dialect ν) (node : ν) : Prop where
  declaration : ∃ form, d.form? node = some form ∧ form.isDeclaration = true
  source : d.hasSource node = false ∨ d.source? node = .ok none ∨ d.source? node = .ok (some [])

/-- Without a source there is no link. -/
theorem linkWith_ne_ok (h : d.source? node = .ok none ∨ d.source? node = .ok (some [])) :
    d.linkWith node tags ≠ .ok link := by
  intro hlink
  obtain ⟨t, _, hne, hsource, _⟩ := exists_of_linkWith hlink
  rcases h with h | h
  · cases h.symm.trans hsource
  · exact hne (Option.some.inj (Except.ok.inj (hsource.symm.trans h)))

theorem makesLink_iff : d.makesLink node = true ↔ ∃ link, d.link? node = .ok (some link) := by
  unfold makesLink visitLinks
  split
  · next link? hlink => cases link? <;> simp [hlink]
  · next hlink => simp [hlink]

/-- **A declaration that names no module makes no link.** -/
theorem NamesNoModule.makesLink (hsource : d.hasSource node = false → d.source? node = .ok none)
    (h : d.NamesNoModule node) : d.makesLink node = false := by
  have hnone : d.source? node = .ok none ∨ d.source? node = .ok (some []) := by
    rcases h.source with hnone | h
    · exact .inl (hsource hnone)
    · exact h
  rw [Bool.eq_false_iff, ne_eq, makesLink_iff]
  rintro ⟨link, hlink⟩
  cases makes_of_link? hlink with
  | bindings _ _ hmade => exact linkWith_ne_ok hnone hmade
  | whole _ hmade => exact linkWith_ne_ok hnone hmade
  | dynamic hform =>
    -- A dynamic import has another form than a declaration, so the node is none.
    obtain ⟨form, hdeclared, hdeclaration⟩ := h.declaration
    rcases hform with hform | hform
    · obtain rfl := Option.some.inj (hform.symm.trans hdeclared)
      cases hdeclaration
    · obtain rfl := Option.some.inj (hform.symm.trans hdeclared)
      cases hdeclaration

/-! ## Tags that are texts -/

/-- **The names of a specifier are texts**, as far as it has them. -/
def NamesTexts (d : Dialect ν) (spec : ν) : Prop :=
  ∀ name, d.importedName spec = .ok name ∨ d.takenName spec = .ok name
    ∨ d.localName spec = .ok name ∨ d.exportedName spec = .ok name → name.isTextOrNull = true

/-- The name of a specifier is one of the four that it can have. -/
theorem firstName_cases {name : Json} (h : d.firstName spec = .ok name) :
    d.importedName spec = .ok name ∨ d.takenName spec = .ok name
      ∨ d.localName spec = .ok name ∨ d.exportedName spec = .ok name := by
  -- The names are asked for one after the other, and the first that is not missing counts.
  obtain ⟨imported, himported, h⟩ := Outcome.bind_eq_ok.1 h
  split at h
  · exact .inl (by rw [himported, Except.ok.inj h])
  obtain ⟨taken, htaken, h⟩ := Outcome.bind_eq_ok.1 h
  split at h
  · exact .inr (.inl (by rw [htaken, Except.ok.inj h]))
  obtain ⟨bound, hbound, h⟩ := Outcome.bind_eq_ok.1 h
  split at h
  · exact .inr (.inr (.inl (by rw [hbound, Except.ok.inj h])))
  · exact .inr (.inr (.inr h))

/-- **The tag of a specifier is a text** if its names are: a missing name is no tag. -/
theorem NamesTexts.exists_text (hspec : d.NamesTexts spec) (h : d.tag spec = .ok tag) :
    ∃ t, tag = .str t := by
  unfold Dialect.tag at h
  split at h
  · obtain rfl := Except.ok.inj h
    exact Json.exists_ofString _
  obtain ⟨exported, _, h⟩ := Outcome.bind_eq_ok.1 h
  split at h
  · obtain rfl := Except.ok.inj h
    exact Json.exists_ofString _
  split at h
  · obtain rfl := Except.ok.inj h
    exact Json.exists_ofString _
  obtain ⟨name, hname, h⟩ := Outcome.bind_eq_ok.1 h
  split at h
  · -- A name that is `null` is reported, so it gives no tag.
    cases h
  · next hnull =>
    obtain rfl := Except.ok.inj h
    have htext := hspec name (firstName_cases hname)
    cases name with
    | str t => exact ⟨t, rfl⟩
    | null => exact absurd rfl hnull
    | _ => cases htext

/-- **The tags of an import**, or of an export with bindings, are those of its specifiers. -/
theorem Makes.tagsOf (h : d.Makes node link)
    (hform : d.form? node = some .importDeclaration ∨ d.form? node = some .namedExport) :
    d.TagsOf node link.specifiers := by
  cases h with
  | bindings _ htags hlink =>
    obtain ⟨_, _, _, _, rfl⟩ := exists_of_linkWith hlink
    exact tagsOf_of_tags htags
  | whole hother => rcases hform with hform | hform <;> cases hother.symm.trans hform
  | dynamic hother =>
    rcases hother with hother | hother <;> rcases hform with hform | hform <;>
      cases hother.symm.trans hform

/-- **The tags of a link are texts** if the names of its node's specifiers are. -/
theorem Makes.exists_text (h : d.Makes node link)
    (hnode : ∀ spec ∈ d.specifiers node, d.NamesTexts spec) :
    ∀ tag ∈ link.specifiers, ∃ t, tag = .str t := by
  cases h with
  | bindings _ htags hlink =>
    obtain ⟨_, _, _, _, rfl⟩ := exists_of_linkWith hlink
    cases tagsOf_of_tags htags with
    | file => exact List.forall_mem_singleton.2 (Json.exists_ofString _)
    | each _ htags =>
      exact Outcome.forall_mem_of_forall₂ htags fun spec hspec tag htag =>
        (hnode spec hspec).exists_text htag
  | whole _ hlink =>
    obtain ⟨_, _, _, _, rfl⟩ := exists_of_linkWith hlink
    exact List.forall_mem_singleton.2 (Json.exists_ofString _)
  | dynamic => exact List.forall_mem_singleton.2 (Json.exists_ofString _)

end Dialect

/-! ## Names in object trees -/

namespace Json

/-- **A node in a field is a child**, unless the field describes the node. -/
theorem mem_children_of_field {offset? : Json → Option Int} {node child : Json} {key : String}
    (hkey : (Text.ofString key).isOneOf metadataKeys = false)
    (hchild : child ∈ nodesOf (node.field key)) : child ∈ children offset? node := by
  cases node with
  | obj fields =>
    have hfield : (Text.ofString key, (obj fields).field key) ∈ fields := by
      rw [field, field?] at hchild ⊢
      cases hlookup : fields.lookup (Text.ofString key) with
      | none =>
        rw [hlookup] at hchild
        cases hchild
      | some value =>
        obtain ⟨before, after, rfl, _⟩ := List.lookup_eq_some_iff.1 hlookup
        exact List.mem_append_right before List.mem_cons_self
    -- Sorting the children loses none of them.
    rw [children, (inOrder_perm offset? _).mem_iff, occurrences_eq_flatMap]
    refine List.mem_flatMap.2 ⟨_, hfield, ?_⟩
    rw [hkey, if_neg Bool.false_ne_true]
    exact hchild
  | _ => cases hchild

/-- Specifiers are children of their declaration, so a survey visits them. -/
theorem mem_children_of_mem_specifiers {offset? : Json → Option Int} {node spec : Json}
    (h : spec ∈ node.specifiers) : spec ∈ children offset? node := by
  have hkey : (Text.ofString "specifiers").isOneOf metadataKeys = false := by decide
  refine mem_children_of_field hkey ?_
  unfold specifiers at h
  cases hvalue : node.field "specifiers" with
  | arr items =>
    rw [hvalue] at h
    exact h
  | _ =>
    rw [hvalue] at h
    cases h

end Json

/-! ## Names by dialect -/

/-- **The names in a node are texts**, in the dialects that take them for names as they are: `null`
or a text under the name of an identifier and, in Babel's trees, under the value of a string. -/
def DialectName.SpellsTexts : (name : DialectName) → name.Node → Prop
  | .babel => fun node =>
    (node.hasType "Identifier" = true → (node.field "name").isTextOrNull = true)
      ∧ (node.hasType "StringLiteral" = true → (node.field "value").isTextOrNull = true)
  | .oxc => fun node =>
    node.hasTypeIn Oxc.identifierTypes = true → (node.field "name").isTextOrNull = true
  | .swc | .treeSitter => fun _ => True

instance (name : DialectName) (node : name.Node) : Decidable (name.SpellsTexts node) :=
  match name with
  | .babel => inferInstanceAs (Decidable
      ((node.hasType "Identifier" = true → (node.field "name").isTextOrNull = true)
        ∧ (node.hasType "StringLiteral" = true → (node.field "value").isTextOrNull = true)))
  | .oxc => inferInstanceAs (Decidable
      (node.hasTypeIn Oxc.identifierTypes = true → (node.field "name").isTextOrNull = true))
  | .swc | .treeSitter => inferInstanceAs (Decidable True)

/-- **Names are texts or missing** where the nodes say so, and in trees that take only texts they
are in any case. -/
theorem Babel.isTextOrNull_spelledName {node : Json} (h : DialectName.babel.SpellsTexts node) :
    (Babel.spelledName node).isTextOrNull = true := by
  unfold Babel.spelledName
  split_ifs with hname hvalue
  · exact h.1 hname
  · exact h.2 hvalue
  · rfl

theorem Oxc.isTextOrNull_spelledName {node : Json} (h : DialectName.oxc.SpellsTexts node) :
    (Oxc.spelledName node).isTextOrNull = true := by
  unfold Oxc.spelledName
  split_ifs with hname
  · exact h hname
  · exact Json.isTextOrNull_ofText? _

theorem Swc.isTextOrNull_spelledName (node : Json) :
    (Swc.spelledName node).isTextOrNull = true := by
  unfold Swc.spelledName
  split_ifs
  · exact Json.isTextOrNull_ofText? _
  · rfl

/-- In a parse tree a name is read as a text. -/
theorem ParseNode.isTextOrNull_spelledName {node : ParseNode} {name : Json}
    (h : node.spelledName = .ok name) : name.isTextOrNull = true := by
  unfold spelledName at h
  split at h
  · obtain ⟨t?, _, rfl⟩ := Outcome.map_eq_ok.1 h
    exact Json.isTextOrNull_ofText? t?
  · obtain ⟨t, _, rfl⟩ := Outcome.map_eq_ok.1 h
    rfl

theorem ParseNode.isTextOrNull_spelledName? {node? : Option ParseNode} {name : Json}
    (h : spelledName? node? = .ok name) : name.isTextOrNull = true := by
  cases node? with
  | none =>
    obtain rfl := Except.ok.inj h
    rfl
  | some node => exact isTextOrNull_spelledName h

namespace ObjectDialect

variable {d : ObjectDialect} {root node spec : Json}

/-- **The names of a specifier are texts** if what its fields spell is. -/
theorem namesTexts_of_fields (himported : (d.spelledName (spec.field "imported")).isTextOrNull = true)
    (htaken : (d.spelledName (d.taken spec)).isTextOrNull = true)
    (hlocal : (d.spelledName (spec.field "local")).isTextOrNull = true)
    (hexported : (d.spelledName (d.exported spec)).isTextOrNull = true) :
    d.toDialect.NamesTexts spec := by
  rintro name (h | h | h | h)
  · obtain rfl := Except.ok.inj h
    exact himported
  · obtain rfl := Except.ok.inj h
    exact htaken
  · obtain rfl := Except.ok.inj h
    exact hlocal
  · obtain rfl := Except.ok.inj h
    exact hexported

/-- **What holds of all nodes of a tree**, and of whatever is no node, holds of the fields of a
node. -/
theorem of_field {P : Json → Prop} (hleaf : ∀ j : Json, j.isObject = false → P j)
    (h : ∀ node ∈ d.toDialect.preorder root, P node) (hnode : node ∈ d.toDialect.preorder root)
    {key : String} (hkey : (Text.ofString key).isOneOf Json.metadataKeys = false) :
    P (node.field key) := by
  by_cases hobject : (node.field key).isObject = true
  · have hchild : node.field key ∈ d.toDialect.children node := by
      refine Json.mem_children_of_field hkey ?_
      cases hvalue : node.field key with
      | obj fields => exact List.mem_singleton_self _
      | _ =>
        rw [hvalue] at hobject
        cases hobject
    exact h _ (Dialect.mem_preorder_of_mem_below (d.toDialect.mem_below_of_mem_children hnode hchild))
  · exact hleaf _ (Bool.eq_false_iff.2 hobject)

/-- **The names of a specifier stand in nodes of the tree**, so they are texts if what the nodes
spell is, in a dialect without a field of its own for them. -/
theorem namesTexts_of_nodes {P : Json → Prop} (hleaf : ∀ j : Json, j.isObject = false → P j)
    (hspelled : ∀ j, P j → (d.spelledName j).isTextOrNull = true)
    (htaken : ∀ spec, d.taken spec = .null) (hexported : ∀ spec, d.exported spec = spec.field "exported")
    (h : ∀ node ∈ d.toDialect.preorder root, P node) (hnode : node ∈ d.toDialect.preorder root)
    (hspec : spec ∈ node.specifiers) : d.toDialect.NamesTexts spec := by
  have hmem : spec ∈ d.toDialect.preorder root :=
    Dialect.mem_preorder_of_mem_below (Dialect.mem_below_of_mem_children _ hnode
      (Json.mem_children_of_mem_specifiers hspec))
  refine namesTexts_of_fields (hspelled _ (of_field hleaf h hmem (by decide))) ?_
    (hspelled _ (of_field hleaf h hmem (by decide))) ?_
  · rw [htaken]
    exact hspelled _ (hleaf .null rfl)
  · rw [hexported]
    exact hspelled _ (of_field hleaf h hmem (by decide))

end ObjectDialect

/-- What is no node spells no name. -/
theorem DialectName.spellsTexts_of_not_isObject {j : Json} (h : j.isObject = false) :
    DialectName.babel.SpellsTexts j ∧ DialectName.oxc.SpellsTexts j := by
  have htype : ∀ type : String, j.hasType type ≠ true := by
    intro type htype
    rw [Json.isObject_of_hasType htype] at h
    cases h
  refine ⟨⟨fun hname => absurd hname (htype _), fun hvalue => absurd hvalue (htype _)⟩, ?_⟩
  intro hname
  obtain ⟨type, _, htypeIn⟩ := List.any_eq_true.1 hname
  exact absurd htypeIn (htype type)

theorem TreeSitter.isTextOrNull_nameIn {type field : String} {spec : ParseNode} {name : Json}
    (h : nameIn type field spec = .ok name) : name.isTextOrNull = true := by
  unfold nameIn at h
  split at h
  · exact ParseNode.isTextOrNull_spelledName? h
  · obtain rfl := Except.ok.inj h
    rfl

/-- **The names of the specifiers in a tree are texts** if the names in its nodes are. -/
theorem DialectName.namesTexts (name : DialectName) {root node spec : name.Node}
    (h : ∀ node ∈ name.dialect.preorder root, name.SpellsTexts node)
    (hnode : node ∈ name.dialect.preorder root) (hspec : spec ∈ name.dialect.specifiers node) :
    name.dialect.NamesTexts spec := by
  cases name with
  | babel =>
    exact ObjectDialect.namesTexts_of_nodes (fun _ hleaf => (spellsTexts_of_not_isObject hleaf).1)
      (fun _ => Babel.isTextOrNull_spelledName) (fun _ => rfl) (fun _ => rfl) h hnode hspec
  | oxc =>
    exact ObjectDialect.namesTexts_of_nodes (fun _ hleaf => (spellsTexts_of_not_isObject hleaf).2)
      (fun _ => Oxc.isTextOrNull_spelledName) (fun _ => rfl) (fun _ => rfl) h hnode hspec
  | swc =>
    exact ObjectDialect.namesTexts_of_fields (Swc.isTextOrNull_spelledName _)
      (Swc.isTextOrNull_spelledName _) (Swc.isTextOrNull_spelledName _)
      (Swc.isTextOrNull_spelledName _)
  | treeSitter =>
    -- A parse tree reads every name as a text, whatever its nodes say.
    rintro spelled (h | h | h | h)
    · exact TreeSitter.isTextOrNull_nameIn h
    · exact TreeSitter.isTextOrNull_nameIn h
    · exact TreeSitter.isTextOrNull_nameIn h
    · replace h : TreeSitter.exportedName spec = .ok spelled := h
      unfold TreeSitter.exportedName at h
      split at h
      · exact ParseNode.isTextOrNull_spelledName? h
      · obtain rfl := Except.ok.inj h
        rfl

/-! ## The survey -/

namespace DialectName

/-- A declaration without a source has no literal for one. -/
theorem source?_of_not_hasSource (name : DialectName) {node : name.Node}
    (h : name.dialect.hasSource node = false) : name.dialect.source? node = .ok none := by
  have hnull : ∀ j : Json, (!(j.field "source").isNull) = false → j.field "source" = .null := by
    intro j hj
    cases hsource : j.field "source" with
    | null => rfl
    | _ =>
      rw [hsource] at hj
      cases hj
  cases name with
  | babel => exact congrArg (fun source => Except.ok (Babel.literal? source)) (hnull node h)
  | oxc => exact congrArg (fun source => Except.ok (Oxc.literal? source)) (hnull node h)
  | swc => exact congrArg (fun source => Except.ok (Swc.literal? source)) (hnull node h)
  | treeSitter =>
    have hnone : node.child? "source" = none :=
      Option.isNone_iff_eq_none.1 (Option.isSome_eq_false_iff.1 h)
    show node.fieldLiteral? "source" = .ok none
    rw [ParseNode.fieldLiteral?, hnone]

/-- **A link made of a node**: as a survey finds it, and, for an import or an export with bindings,
with the tags of the node. -/
structure Made (name : DialectName) (node : name.Node) (link : Link) : Prop where
  made : name.dialect.link? node = .ok (some link)
  found : link.IsFound
  tags : name.dialect.form? node = some .importDeclaration
      ∨ name.dialect.form? node = some .namedExport →
    name.dialect.TagsOf node link.specifiers

/-- **What a survey makes of a tree.** There is a link for each node that makes one, in order, and
each is well formed and has the tags of its node. A declaration that names no module makes none.
All tags are texts if the names in the nodes of the tree are, and in the dialects that make texts
of names they are in any case. -/
theorem made_of_survey (name : DialectName) (file : Json) (subject : Subject) {links : List Link}
    (h : (name.survey file subject).outcome = .ok links) :
    ∃ root, name.dialect.root subject = .ok root
      ∧ List.Forall₂ name.Made ((name.dialect.preorder root).filter name.dialect.makesLink) links
      ∧ (∀ node ∈ name.dialect.preorder root, name.dialect.NamesNoModule node →
        name.dialect.makesLink node = false)
      ∧ ((∀ node ∈ name.dialect.preorder root, name.SpellsTexts node) →
        ∀ link ∈ links, ∀ tag ∈ link.specifiers, ∃ t, tag = .str t) := by
  obtain ⟨root, hroot⟩ := Dialect.exists_root_of_survey h
  have hmade := Dialect.forall₂_of_survey hroot h
  refine ⟨root, hroot, ?_, ?_, ?_⟩
  · refine hmade.imp fun node link hlink => ⟨hlink, Dialect.isFound_of_link? hlink, ?_⟩
    exact (Dialect.makes_of_link? hlink).tagsOf
  · intro node _ hnode
    exact hnode.makesLink name.source?_of_not_hasSource
  · intro hnames
    refine Outcome.forall_mem_of_forall₂ hmade fun node hnode link hlink => ?_
    have hmem := (List.mem_filter.1 hnode).1
    exact (Dialect.makes_of_link? hlink).exists_text fun spec hspec =>
      name.namesTexts hnames hmem hspec

/-- An import of the default export and of one by name, an export of a name of the module itself,
and a re-export of nothing. -/
def taggedModule : List Code.Item :=
  [.importing [.defaultBinding "maps".toList, .named [(.identifier "map".toList, none)]]
      ⟨⟨[.run "./maps".toList]⟩, by decide⟩ [],
    .exportList [⟨.identifier "maps".toList, none⟩],
    .reexport [] ⟨⟨[.run "./side".toList]⟩, by decide⟩ []]

theorem made_of_survey_taggedModule :
    (DialectName.babel.survey .null (Code.encode unplaced taggedModule .babel)).outcome
        = .ok (Code.links taggedModule)
      ∧ (Code.links taggedModule).map Link.specifiers
        = [[Link.defaultTag, .ofString "map"], [Link.fileTag]]
      ∧ (∃ root, DialectName.babel.dialect.root (Code.encode unplaced taggedModule .babel) = .ok root
        ∧ (∀ node ∈ DialectName.babel.dialect.preorder root, DialectName.babel.SpellsTexts node)
        ∧ List.Forall₂ DialectName.babel.Made ((DialectName.babel.dialect.preorder root).filter
          DialectName.babel.dialect.makesLink) (Code.links taggedModule)
        ∧ ∀ link ∈ Code.links taggedModule, ∀ tag ∈ link.specifiers, ∃ t, tag = .str t)
      ∧ (DialectName.swc.survey .null (Code.encode unplaced taggedModule .swc)).outcome
        = .ok (Code.links taggedModule)
      ∧ (∃ root, DialectName.swc.dialect.root (Code.encode unplaced taggedModule .swc) = .ok root
        ∧ List.Forall₂ DialectName.swc.Made ((DialectName.swc.dialect.preorder root).filter
          DialectName.swc.dialect.makesLink) (Code.links taggedModule))
      ∧ (DialectName.treeSitter.survey .null (Code.encode unplaced taggedModule .treeSitter)).outcome
        = .ok (Code.links taggedModule)
      ∧ ∃ root, DialectName.treeSitter.dialect.root (Code.encode unplaced taggedModule .treeSitter)
          = .ok root
        ∧ List.Forall₂ DialectName.treeSitter.Made ((DialectName.treeSitter.dialect.preorder
          root).filter DialectName.treeSitter.dialect.makesLink) (Code.links taggedModule) := by
  have hbabel := Analysis.outcome_survey_unplaced .babel taggedModule .null
  have hswc := Analysis.outcome_survey_unplaced .swc taggedModule .null
  have htree := Analysis.outcome_survey_unplaced .treeSitter taggedModule .null
  obtain ⟨root, hroot, hmade, -, htexts⟩ := made_of_survey .babel .null _ hbabel
  obtain ⟨spanned, hspanned, hspannedMade, -, -⟩ := made_of_survey .swc .null _ hswc
  obtain ⟨parsed, hparsed, hparsedMade, -, -⟩ := made_of_survey .treeSitter .null _ htree
  obtain rfl : ObjectParser.babel.program unplaced taggedModule = root := Except.ok.inj hroot
  have hnames : ∀ node ∈ DialectName.babel.dialect.preorder
      (ObjectParser.babel.program unplaced taggedModule), DialectName.babel.SpellsTexts node := by
    decide +kernel
  exact ⟨hbabel, by rfl, ⟨_, hroot, hnames, hmade, htexts hnames⟩, hswc,
    ⟨spanned, hspanned, hspannedMade⟩, htree, parsed, hparsed, hparsedMade⟩

end DialectName

end ModuleLinks

/-
Exports of a whole module.

A module hands on what another one exports with `export * from`, or all of it under one
name with `export * as`. Each parser has shapes of its own for the two: one type of
declaration for both, or a specifier for the name, or no more than a star among the
tokens.

The link of such an export is that of a whole module, whatever the name, with one
exception. The specifier that Babel makes shows the name as exported, and a specifier
that exports `default` is a default export before it is asked what it takes. The other
parsers keep the name where a survey does not look, so the links of one program differ
there.

Its source is the value of the literal, which a document shows and a parse tree has in
pieces. What is read from those is the value unless the literal is one of the few that
are misread.

Main statements: `survey_wholeExport`, with the exception in `WholeExport.tag`, and
`link_eq_wholeLink_iff`, for which exports and parsers the link is as it should be.
-/
import ModuleLinks.Proofs.ObjectSurvey
import ModuleLinks.Proofs.StringValue
import ModuleLinks.Proofs.TreeSurvey

set_option autoImplicit false

namespace ModuleLinks

open Code

namespace Code

/-- **A source as it is written**: the pieces of a literal whose value is not empty. -/
structure WrittenSource where
  pieces : List StringLiteral.Piece
  value_ne : StringLiteral.value pieces ≠ []

namespace WrittenSource

/-- What the source means, by the standard. -/
def value (s : WrittenSource) : Text := StringLiteral.value s.pieces

/-- **The text of the source** in the tree of a parser: its value, or what is read from pieces. -/
def textIn (s : WrittenSource) : DialectName → Text
  | .treeSitter => StringLiteral.read s.pieces
  | _ => s.value

end WrittenSource

/-- **An export of a whole module**, under a name or export by export. -/
structure WholeExport where
  exported : Option Name
  source : WrittenSource
  attributes : List Attribute

namespace WholeExport

/-- The module is exported as the default export. -/
def exportsDefault (x : WholeExport) : Bool := x.exported.any fun n => n.text.is "default"

/-- **The tag of the export.** It depends on the parser if the name is `default`. -/
def tag (x : WholeExport) : DialectName → Json
  | .babel => if x.exportsDefault then Link.defaultTag else Link.namespaceTag
  | _ => Link.namespaceTag

/-- **The link that is found** in the tree of a parser. -/
def link (x : WholeExport) (name : DialectName) : Link where
  specifiers := [x.tag name]
  source := .str (x.source.textIn name)
  assertion := Json.ofText? (assertion? x.attributes)

/-- **The link of a whole module** to the value of the source. -/
def wholeLink (x : WholeExport) : Link where
  specifiers := [Link.namespaceTag]
  source := .str x.source.value
  assertion := Json.ofText? (assertion? x.attributes)

/-- **The link is that of a whole module** unless Babel shows the name `default`, or the source is a
literal that is misread from its pieces. -/
theorem link_eq_wholeLink_iff (x : WholeExport) (name : DialectName) :
    x.link name = x.wholeLink
      ↔ (name = .babel → x.exportsDefault = false)
        ∧ (name = .treeSitter → (∀ y ∈ x.source.pieces, y.isLegacy = false)
          ∧ (StringLiteral.meaning x.source.pieces).Unpaired) := by
  have hparts : x.link name = x.wholeLink
      ↔ x.tag name = Link.namespaceTag ∧ x.source.textIn name = x.source.value := by
    simp [link, wholeLink]
  rw [hparts]
  -- Only two parsers differ from the others: one in the tag, and one in the text.
  cases name with
  | babel =>
    have htags : Link.defaultTag ≠ Link.namespaceTag := fun h =>
      absurd (congrArg Json.text? h) (by decide)
    cases hdefault : x.exportsDefault <;> simp [tag, hdefault, WrittenSource.textIn, htags]
  | treeSitter =>
    simp [tag, WrittenSource.textIn, WrittenSource.value, StringLiteral.read_eq_value_iff]
  | oxc => simp [tag, WrittenSource.textIn]
  | swc => simp [tag, WrittenSource.textIn]

end WholeExport

end Code

/-! ## Object trees -/

namespace ObjectParser

section Encoding

variable (p : ObjectParser) (placement : Placement)

/-- The name of the dialect of a parser. -/
def dialectName : ObjectParser → DialectName
  | babel => .babel
  | oxc => .oxc
  | swc => .swc

/-- Where a parser keeps the name of a whole module in a specifier. -/
def namespaceKey : ObjectParser → String
  | babel | oxc => "exported"
  | swc => "name"

/-- The specifier of a whole module, where the parser writes one. -/
def namespaceSpecifier (n : Name) : Planted Json :=
  p.plainNode placement "ExportNamespaceSpecifier" [(p.namespaceKey, p.name placement n)]

/-- What the parser calls such an export: two of them call it an export of names if there is a
name. -/
def wholeType : ObjectParser → Option Name → String
  | oxc, _ | _, none => "ExportAllDeclaration"
  | _, some _ => "ExportNamedDeclaration"

/-- What stands in front of the source: a name, or, for two of the parsers, a specifier if there is
a name. -/
def wholeFields (exported : Option Name) : List (String × Planted Json) :=
  match p, exported with
  | oxc, exported => [("exported", oxc.name? placement exported)]
  | _, none => []
  | p, some n => [("declaration", fixed .null), ("specifiers", list [p.namespaceSpecifier placement n])]

/-- **An export of a whole module** in the shape of the parser. -/
def wholeExport (x : WholeExport) : Planted Json :=
  p.declaration placement (p.wholeType x.exported) (p.wholeFields placement x.exported)
    (p.textLiteral placement x.source.value) x.attributes

/-- A program of one statement. -/
def oneStatement (statement : Planted Json) : Json :=
  .obj ((Text.ofString "type", Json.ofString p.programType)
    :: (Text.ofString "body", .arr [statement [0]]) :: p.position placement [])

end Encoding

variable {p : ObjectParser} {placement : Placement} {address : List ℕ}

/-- Babel shows the name of an export as exported, and no other parser does. -/
theorem tag_namespaceSpecifier (hp : p ≠ oxc) {x : WholeExport} {n : Name}
    (hn : x.exported = some n) :
    p.dialect.toDialect.tag (p.namespaceSpecifier placement n address)
      = .ok (x.tag p.dialectName) := by
  cases p with
  | oxc => exact absurd rfl hp
  | babel =>
    have hexported : babel.dialect.toDialect.exportedName
        (babel.namespaceSpecifier placement n address) = .ok (.str n.text) :=
      congrArg Except.ok (spelledName_name (p := babel) n)
    rw [dialectName, WholeExport.tag, WholeExport.exportsDefault, hn]
    exact Dialect.tag_wholeModule rfl hexported
  -- This parser keeps the name in a field of its own, where nothing is read of it.
  | swc =>
    apply Dialect.tag_namespace rfl
    exact exportedName_of_null (field_node (by decide) (by decide) (by decide))
      (field_node (by decide) (by decide) (by decide))

/-- The name stands in front of the source. -/
theorem isFront_wholeFields (hp : p ≠ oxc) (exported : Option Name) :
    IsFront (p.wholeFields placement exported) := by
  have htwo : ∀ specifiers, IsFront [("declaration", fixed .null), ("specifiers", specifiers)] :=
    fun _ => List.forall_mem_cons.2 ⟨List.mem_cons_self,
      List.forall_mem_singleton.2 (List.mem_cons_of_mem _ List.mem_cons_self)⟩
  cases p with
  | oxc => exact absurd rfl hp
  | babel =>
    cases exported with
    | none => exact nofun
    | some n => exact htwo _
  | swc =>
    cases exported with
    | none => exact nofun
    | some n => exact htwo _

section Forms

variable {front : List (String × Planted Json)} {source : Planted Json} {attributes : List Attribute}

/-- An export of everything has that form. -/
theorem form?_exportAll :
    p.dialect.toDialect.form?
      (p.declaration placement "ExportAllDeclaration" front source attributes address)
        = some .wholeExport := by
  cases p <;> rfl

theorem form?_exportNamed :
    p.dialect.toDialect.form?
      (p.declaration placement "ExportNamedDeclaration" front source attributes address)
        = some .namedExport := by
  cases p <;> rfl

end Forms

/-- **What the export says of the other module.** -/
theorem refers_wholeExport (x : WholeExport) :
    p.dialect.toDialect.Refers (p.wholeExport placement x address) x.source.value
      (assertion? x.attributes) := by
  by_cases hp : p = oxc
  · -- The field in front of the source is none that other declarations have.
    subst hp
    exact
      { reads_source := congrArg Except.ok (literal?_textLiteral (p := oxc) x.source.value)
        nonempty := x.source.value_ne
        reads_assertion := by
          rw [← typeAttribute?_grow (p := oxc) x.attributes (address ++ [2]) 0]
          exact assertion?_of_attributes (.inl rfl) }
  · exact refers_textSource (isFront_wholeFields hp x.exported) x.source.value_ne

/-- The source is there, however it is written. -/
theorem hasSource_wholeExport (x : WholeExport) :
    p.dialect.toDialect.hasSource (p.wholeExport placement x address) = true := by
  by_cases hp : p = oxc
  · subst hp
    rfl
  · exact hasSource_textLiteral (isFront_wholeFields hp x.exported)

/-- A name is a specifier, save for one parser, and has the only tag. -/
theorem tags_wholeExport (hp : p ≠ oxc) {x : WholeExport} {n : Name} (hn : x.exported = some n) :
    p.dialect.toDialect.tags (p.wholeExport placement x address)
      = .ok [x.tag p.dialectName] := by
  obtain ⟨exported, source, attributes⟩ := x
  obtain rfl : exported = some n := hn
  -- Whatever the name of the specifier, it has the tag of the export.
  have htag : ∀ (m : Name) (a : List ℕ),
      p.dialect.toDialect.tag (p.namespaceSpecifier placement m a)
        = .ok (WholeExport.tag ⟨some m, source, attributes⟩ p.dialectName) := fun m a =>
    tag_namespaceSpecifier hp rfl
  cases p with
  | oxc => exact absurd rfl hp
  | babel => exact tags_of_field [n] rfl (fun _ _ => rfl) htag
  | swc => exact tags_of_field [n] rfl (fun _ _ => rfl) htag

/-- **The link of an export of a whole module.** -/
theorem link?_wholeExport (x : WholeExport) :
    p.dialect.toDialect.link? (p.wholeExport placement x address)
      = .ok (some (x.link p.dialectName)) := by
  have hrefers : p.dialect.toDialect.Refers (p.wholeExport placement x address) x.source.value
      (assertion? x.attributes) := refers_wholeExport x
  have hsource : p.dialect.toDialect.hasSource (p.wholeExport placement x address) = true :=
    hasSource_wholeExport x
  have htags : ∀ n, p ≠ oxc → x.exported = some n → p.dialect.toDialect.tags
      (p.wholeExport placement x address) = .ok [x.tag p.dialectName] :=
    fun _ hp hn => tags_wholeExport hp hn
  obtain ⟨exported, source, attributes⟩ := x
  cases exported with
  | none =>
    cases p with
    | oxc => exact hrefers.link?_wholeExport form?_exportAll hsource
    | babel => exact hrefers.link?_wholeExport form?_exportAll hsource
    | swc => exact hrefers.link?_wholeExport form?_exportAll hsource
  | some n =>
    cases p with
    | oxc => exact hrefers.link?_wholeExport form?_exportAll hsource
    | babel => exact hrefers.link?_namedExport form?_exportNamed hsource (htags n nofun rfl)
    | swc => exact hrefers.link?_namedExport form?_exportNamed hsource (htags n nofun rfl)

/-- In the fields in front of the source there are names only. -/
theorem mute_wholeFields (exported : Option Name) :
    ∀ field ∈ p.wholeFields placement exported, p.Mute field.2 := by
  cases exported with
  | none =>
    cases p with
    | oxc => exact List.forall_mem_singleton.2 (mute_fixed rfl)
    | babel => exact nofun
    | swc => exact nofun
  | some n =>
    have hspecifier : p.Mute (p.namespaceSpecifier placement n) :=
      mute_plainNode rfl (List.forall_mem_singleton.2 (mute_name n))
    have hspecifiers := mute_list (List.forall_mem_singleton.2 hspecifier)
    cases p with
    | oxc => exact List.forall_mem_singleton.2 (mute_name n)
    | babel => exact mute_two (mute_fixed rfl) hspecifiers
    | swc => exact mute_two (mute_fixed rfl) hspecifiers

/-- **An export of a whole module yields its link**: nothing below it makes another one. -/
theorem yields_wholeExport (x : WholeExport) :
    p.dialect.toDialect.Yields (p.wholeExport placement x address) [x.link p.dialectName] :=
  yields_declaration (mute_wholeFields x.exported) (mute_textLiteral x.source.value)
    (link?_wholeExport x)

theorem root_oneStatement (statement : Planted Json) :
    p.dialect.toDialect.root (.json (p.oneStatement placement statement))
      = .ok (p.oneStatement placement statement) := by
  cases p <;> rfl

/-- **A program of one statement** yields what the statement does. -/
theorem yields_oneStatement {statement : Planted Json} {links : List Link}
    (hobject : (statement [0]).isObject = true)
    (h : p.dialect.toDialect.Yields (statement [0]) links) :
    p.dialect.toDialect.Yields (p.oneStatement placement statement) links := by
  have hform : p.dialect.toDialect.form? (p.oneStatement placement statement) = none := by
    cases p <;> rfl
  -- Only the body holds nodes.
  have hoccurrences : Json.occurrences ((Text.ofString "type", Json.ofString p.programType)
      :: (Text.ofString "body", .arr [statement [0]]) :: p.position placement [])
        = [statement [0]] := by
    rw [Json.occurrences, Json.occurrences, occurrences_position, List.append_nil]
    exact List.filter_eq_self.2 (List.forall_mem_singleton.2 hobject)
  have hchildren : p.dialect.toDialect.children (p.oneStatement placement statement)
      = [statement [0]] := by
    show Json.inOrder p.dialect.offset? (Json.occurrences _) = _
    rw [hoccurrences]
    exact List.perm_singleton.1 (Json.inOrder_perm _ _)
  have hall : List.Forall₂ p.dialect.toDialect.Yields
      (p.dialect.toDialect.children (p.oneStatement placement statement)) [links] := by
    rw [hchildren]
    exact .cons h .nil
  have hlinks := Dialect.yields_of_children hform hall
  rwa [List.flatten_singleton] at hlinks

end ObjectParser

/-! ## Parse trees -/

namespace ParseTree

section Encoding

variable (placement : Placement)

/-- The name of an export; as an identifier, `default` is a keyword. -/
def exportedName : Name → Planted ParseNode
  | .identifier chars =>
    if chars = "default".toList then token placement "default"
    else leaf placement "identifier" none chars
  | .string l => literal placement none l

/-- The star of an export, with the name for it if there is one. -/
def star : Option Name → Planted ParseNode
  | none => token placement "*"
  | some n =>
    plainBranch placement "namespace_export" none
      [token placement "*", token placement "as", exportedName placement n]

/-- A piece of the source as a node. -/
def pieceNode : StringLiteral.Piece → Planted ParseNode
  | .quotationMark double => token placement (if double then "\x22" else "\x27")
  | .fragment chars => leaf placement "string_fragment" none chars
  | .escape form => leaf placement "escape_sequence" none form.written

/-- The source as it is written, in the field of the statement. -/
def writtenSource (s : WrittenSource) : Planted ParseNode :=
  plainBranch placement "string" (some "source") (s.pieces.map (pieceNode placement))

/-- **The export as a statement**, token by token. -/
def wholeExport (x : WholeExport) : Planted ParseNode :=
  plainBranch placement "export_statement" none
    (token placement "export" :: star placement x.exported :: token placement "from" ::
      writtenSource placement x.source ::
        (attributeClause placement x.attributes ++ [token placement ";"]))

/-- A program with one statement. -/
def oneStatement (statement : Planted ParseNode) : ParseNode :=
  plainBranch placement "program" none [statement] []

end Encoding

variable {placement : Placement} {address : List ℕ}

theorem is_pieceNode (x : StringLiteral.Piece) (a : List ℕ) : x.Is (pieceNode placement x a) where
  type := by
    rw [ParseNode.hasType, Text.is_iff]
    cases x with
    | quotationMark double => cases double <;> rfl
    | fragment chars => rfl
    | escape form => rfl
  bytes := by
    cases x with
    | quotationMark double => cases double <;> rfl
    | fragment chars => rfl
    | escape form => rfl

theorem literal?_writtenSource (s : WrittenSource) :
    (writtenSource placement s address).literal? = .ok (some (StringLiteral.read s.pieces)) := by
  have hchildren : List.Forall₂ StringLiteral.Piece.Is s.pieces
      (grow address 0 (s.pieces.map (pieceNode placement))) :=
    forall₂_grow (pieceNode placement) is_pieceNode s.pieces address 0
  exact StringLiteral.literal?_eq_read ⟨(Text.is_iff _ _).2 rfl, hchildren⟩

theorem mute_pieceNode (x : StringLiteral.Piece) : Mute (pieceNode placement x) := by
  cases x with
  | quotationMark double => cases double <;> exact mute_token rfl
  | fragment chars => exact mute_leaf chars rfl
  | escape form => exact mute_leaf form.written rfl

/-- The source refers to nothing by itself. -/
theorem mute_writtenSource (s : WrittenSource) : Mute (writtenSource placement s) :=
  mute_branch rfl (mute_map mute_pieceNode s.pieces)

theorem mute_star (exported : Option Name) : Mute (star placement exported) := by
  cases exported with
  | none => exact mute_token rfl
  | some n =>
    have hname : Mute (exportedName placement n) := by
      cases n with
      | string l => exact mute_literal l
      | identifier chars =>
        rw [exportedName]
        split
        · exact mute_token rfl
        · exact mute_leaf chars rfl
    exact mute_branch rfl (List.forall_mem_cons.2 ⟨mute_token rfl, List.forall_mem_cons.2
      ⟨mute_token rfl, List.forall_mem_singleton.2 hname⟩⟩)

/-- **The star alone** makes the form of the statement, with a name behind it or without. -/
theorem link?_wholeExport (x : WholeExport) :
    treeSitter.link? (wholeExport placement x address)
      = .ok (some (x.link .treeSitter)) := by
  obtain ⟨exported, source, attributes⟩ := x
  have hclause : (wholeExport placement ⟨exported, source, attributes⟩ address).namedChildrenOf
      "import_attribute" = grow address 4 (attributeClause placement attributes) := by
    cases exported <;> cases attributes <;> rfl
  have hsource : (wholeExport placement ⟨exported, source, attributes⟩ address).child? "source"
      = some (writtenSource placement source (address ++ [3])) := by
    cases exported <;> rfl
  have hform : treeSitter.form? (wholeExport placement ⟨exported, source, attributes⟩ address)
      = some .wholeExport := by
    cases exported <;> rfl
  have hrefers : treeSitter.Refers (wholeExport placement ⟨exported, source, attributes⟩ address)
      (StringLiteral.read source.pieces) (assertion? attributes) :=
    refers_of_source hsource (literal?_writtenSource source)
      (StringLiteral.read_ne_nil source.value_ne) hclause
  exact hrefers.link?_wholeExport hform (congrArg Option.isSome hsource)

/-- **The statement yields its link.** -/
theorem yields_wholeExport (x : WholeExport) :
    treeSitter.Yields (wholeExport placement x address) [x.link .treeSitter] := by
  have hending : ∀ tree ∈ writtenSource placement x.source ::
      (attributeClause placement x.attributes ++ [token placement ";"]), Mute tree :=
    List.forall_mem_cons.2 ⟨mute_writtenSource x.source, List.forall_mem_append.2
      ⟨mute_attributeClause x.attributes, List.forall_mem_singleton.2 (mute_token rfl)⟩⟩
  refine yields_of_mute ?_ (link?_wholeExport x)
  exact List.forall_mem_cons.2 ⟨mute_token rfl, List.forall_mem_cons.2 ⟨mute_star x.exported,
    List.forall_mem_cons.2 ⟨mute_token rfl, hending⟩⟩⟩

/-- A program with one statement yields what the statement does. -/
theorem yields_oneStatement {statement : Planted ParseNode} {links : List Link}
    (h : treeSitter.Yields (statement [0]) links) :
    treeSitter.Yields (oneStatement placement statement) links := by
  have hall : List.Forall₂ treeSitter.Yields
      (treeSitter.children (oneStatement placement statement)) [links] := .cons h .nil
  have hform : treeSitter.form? (oneStatement placement statement) = none := rfl
  have hlinks := Dialect.yields_of_children hform hall
  rwa [List.flatten_singleton] at hlinks

end ParseTree

/-! ## All parsers -/

/-- **A program with an export of a whole module**, in the shape of a parser. -/
def Code.encodeWholeExport (placement : Placement) (x : WholeExport) : DialectName → Subject
  | .babel =>
    .json (ObjectParser.babel.oneStatement placement (ObjectParser.babel.wholeExport placement x))
  | .swc =>
    .json (ObjectParser.swc.oneStatement placement (ObjectParser.swc.wholeExport placement x))
  | .oxc =>
    .json (ObjectParser.oxc.oneStatement placement (ObjectParser.oxc.wholeExport placement x))
  | .treeSitter => .tree (ParseTree.oneStatement placement (ParseTree.wholeExport placement x))

/-- The survey of such a program finds one link, the one of its export. -/
theorem survey_encodeWholeExport (placement : Placement) (x : WholeExport) (file : Json)
    (name : DialectName) :
    name.survey file (Code.encodeWholeExport placement x name)
      = ⟨[⟨.debug, name.dialect.opening file⟩], .ok [x.link name]⟩ := by
  cases name with
  | babel =>
    exact Dialect.survey_of_yields (ObjectParser.root_oneStatement (p := .babel) _)
      (ObjectParser.yields_oneStatement rfl
        (ObjectParser.yields_wholeExport (p := .babel) x)) file
  | swc =>
    exact Dialect.survey_of_yields (ObjectParser.root_oneStatement (p := .swc) _)
      (ObjectParser.yields_oneStatement rfl
        (ObjectParser.yields_wholeExport (p := .swc) x)) file
  | oxc =>
    exact Dialect.survey_of_yields (ObjectParser.root_oneStatement (p := .oxc) _)
      (ObjectParser.yields_oneStatement rfl
        (ObjectParser.yields_wholeExport (p := .oxc) x)) file
  | treeSitter =>
    exact Dialect.survey_of_yields rfl
      (ParseTree.yields_oneStatement (ParseTree.yields_wholeExport x)) file

/-- **The survey of an export of a whole module** finds one link. It is tagged as that of a whole
module and leads to the value of the source, unless Babel shows the name `default`, or a parse tree
has the source in pieces that are misread. -/
theorem survey_wholeExport (placement : Placement) (x : WholeExport) (file : Json)
    (name : DialectName) :
    name.survey file (Code.encodeWholeExport placement x name)
        = ⟨[⟨.debug, name.dialect.opening file⟩], .ok [x.link name]⟩
      ∧ (x.link name = x.wholeLink
        ↔ (name = .babel → x.exportsDefault = false)
          ∧ (name = .treeSitter → (∀ y ∈ x.source.pieces, y.isLegacy = false)
            ∧ (StringLiteral.meaning x.source.pieces).Unpaired)) :=
  ⟨survey_encodeWholeExport placement x file name, x.link_eq_wholeLink_iff name⟩

/-- The export of a whole module under the name `default`. -/
def defaultExport : WholeExport where
  exported := some (.identifier "default".toList)
  source := ⟨[.fragment "./x.js".toList], by decide⟩
  attributes := []

/-- **The name of an export is not always without effect**: Babel's shape of an export as
`default` is no whole module to a survey. -/
theorem wholeExport_default_ne :
    DialectName.babel.survey .null (Code.encodeWholeExport unplaced defaultExport .babel)
      ≠ ⟨[⟨.debug, DialectName.babel.dialect.opening .null⟩], .ok [defaultExport.wholeLink]⟩ := by
  intro hwhole
  have hsurvey := survey_encodeWholeExport unplaced defaultExport .null .babel
  -- The link is known, and it is tagged as that of a default export.
  have houtcome := congrArg Logged.outcome (hsurvey.symm.trans hwhole)
  have hlink : defaultExport.link .babel = defaultExport.wholeLink :=
    (List.cons.inj (Except.ok.inj houtcome)).1
  have hnamed := ((defaultExport.link_eq_wholeLink_iff .babel).1 hlink).1 rfl
  exact absurd hnamed (by decide)

end ModuleLinks

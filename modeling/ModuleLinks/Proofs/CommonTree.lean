/-
Trees that the parsers Babel and Oxc have in common.

The two write a program in much the same way, and where they differ the types and keys
of a tree show it: other types of identifiers and literals, other keys for attributes,
another form of dynamic imports. A tree without any of these is common to both. Its
fields may hold what they like, so it need not be well formed, and still no question of
a survey tells the two dialects apart.

Main statement: `survey_common`. The surveys of a common tree have the same links and
warnings, and if they end with a failure, they do so at the same node.
-/
import ModuleLinks.Proofs.Agreement
import ModuleLinks.Proofs.Document
import ModuleLinks.Proofs.ObjectReading
import ModuleLinks.Proofs.SurveyFailure

set_option autoImplicit false

namespace ModuleLinks

namespace Json

/-- **A node without the marks of one parser.** -/
structure IsCommon (node : Json) : Prop where
  /-- Its type is none that Oxc alone takes for a literal or an identifier. -/
  type : node.hasTypeIn ["Literal", "IdentifierName", "IdentifierReference", "BindingIdentifier"]
    = false
  /-- It is no call of the import keyword. -/
  callee : node.hasType "CallExpression" = true → (node.field "callee").hasType "Import" = false
  /-- It has none of the keys under which one of the two keeps attributes. -/
  keys : ∀ key ∈ ["assertions", "withClause"], (node.field? key).isNone = true
  /-- A string literal has a text, or none. -/
  value : node.hasType "StringLiteral" = true → (node.field "value").isTextOrNull = true

instance : DecidablePred IsCommon := fun node =>
  decidable_of_iff
    (node.hasTypeIn ["Literal", "IdentifierName", "IdentifierReference", "BindingIdentifier"] = false
      ∧ (node.hasType "CallExpression" = true → (node.field "callee").hasType "Import" = false)
      ∧ (∀ key ∈ ["assertions", "withClause"], (node.field? key).isNone = true)
      ∧ (node.hasType "StringLiteral" = true → (node.field "value").isTextOrNull = true))
    ⟨fun ⟨htype, hcallee, hkeys, hvalue⟩ => ⟨htype, hcallee, hkeys, hvalue⟩,
      fun h => ⟨h.type, h.callee, h.keys, h.value⟩⟩

/-- What is missing is common to both parsers, and so is a text. -/
theorem isCommon_null : IsCommon .null := by decide

theorem isCommon_str (t : Text) : IsCommon (.str t) :=
  ⟨rfl, nofun, fun _ _ => rfl, nofun⟩

/-- In a common node nothing stands under the keys that one of the parsers reads. -/
theorem IsCommon.field_eq_null {node : Json} (h : node.IsCommon) {key : String}
    (hkey : key ∈ ["assertions", "withClause"]) : node.field key = .null := by
  rw [field, Option.isNone_iff_eq_none.1 (h.keys key hkey)]
  rfl

end Json

/-! ## Questions about a common node -/

namespace CommonTree

variable {node spec : Json}

/-- **A string is read alike**, since its text is under the same key. -/
theorem literal?_eq (h : node.IsCommon) : babel.literal? node = oxc.literal? node := by
  have htype := h.type
  simp only [Json.hasTypeIn, List.any_cons, Bool.or_eq_false_iff] at htype
  show Babel.literal? node = Oxc.literal? node
  simp [Babel.literal?, Oxc.literal?, Json.hasTypeIn, htype.1]

/-- A text is the same value as a name and as the text of a literal. -/
theorem spelledName_eq (h : node.IsCommon) : babel.spelledName node = oxc.spelledName node := by
  have htype := h.type
  simp only [Json.hasTypeIn, List.any_cons, List.any_nil, Bool.or_eq_false_iff] at htype
  obtain ⟨hliteral, hname, hreference, hbinding, -⟩ := htype
  show Babel.spelledName node = Oxc.spelledName node
  by_cases hidentifier : node.hasType "Identifier" = true
  · simp [Babel.spelledName, Oxc.spelledName, Oxc.identifierTypes, Json.hasTypeIn, hidentifier]
  by_cases hstring : node.hasType "StringLiteral" = true
  · -- One takes the value as it is and the other its text; these are the same for a text.
    have hvalue := h.value hstring
    cases hfield : node.field "value" <;>
      simp_all [Babel.spelledName, Oxc.spelledName, Oxc.identifierTypes, Oxc.literal?,
        Json.hasTypeIn, Json.isTextOrNull, Json.ofText?, Json.text?]
  · simp [Babel.spelledName, Oxc.spelledName, Oxc.identifierTypes, Oxc.literal?, Json.hasTypeIn,
      Json.ofText?, hidentifier, hname, hreference, hbinding, hliteral, hstring]

/-- The names of a specifier are read alike, so its tag is the same. -/
theorem namedAlike (h : spec.Everywhere Json.IsCommon) :
    Dialect.NamedAlike Eq babel.toDialect oxc.toDialect spec spec := by
  have hfield : ∀ key, babel.spelledName (spec.field key) = oxc.spelledName (spec.field key) :=
    fun key => spelledName_eq (h.field Json.isCommon_null key).here
  exact
    { reach := rfl
      imported := congrArg Except.ok (hfield "imported")
      taken := rfl
      bound := congrArg Except.ok (hfield "local")
      exported := congrArg Except.ok (hfield "exported")
      malformed := fun _ => rfl }

/-- The asserted type is found in the same attribute. -/
theorem typeAttribute?_eq {attributes : List Json}
    (h : ∀ a ∈ attributes, a.Everywhere Json.IsCommon) :
    babel.typeAttribute? attributes = oxc.typeAttribute? attributes := by
  induction attributes with
  | nil => rfl
  | cons a rest ih =>
    rw [List.forall_mem_cons] at h
    rw [ObjectParser.typeAttribute?_cons, ObjectParser.typeAttribute?_cons, ih h.2,
      spelledName_eq (h.1.field Json.isCommon_null "key").here,
      literal?_eq (h.1.field Json.isCommon_null "value").here]

/-- **The asserted type is the same**, though one dialect takes the second of two
collections where the first is trivial and the other only where it is missing. -/
theorem assertion?_eq (h : node.Everywhere Json.IsCommon) :
    babel.assertion? node = oxc.assertion? node := by
  have hattributes := h.field Json.isCommon_null "attributes"
  have hold : node.field "assertions" = .null := h.here.field_eq_null (by decide)
  have hclause : node.field "withClause" = .null := h.here.field_eq_null (by decide)
  have hoxc : oxc.attributes node = node.field "attributes" := by
    show (if (node.field "attributes").isNull = true then (node.field "withClause").field _ else _)
      = _
    rw [hclause]
    cases node.field "attributes" <;> rfl
  have hbabel : babel.attributes node
      = if (node.field "attributes").isTrivial = true then .null else node.field "attributes" := by
    show (node.field "attributes").orElse (node.field "assertions") = _
    rw [hold, Json.orElse]
  by_cases htrivial : (node.field "attributes").isTrivial = true
  · -- One dialect is left with no collection, the other with an empty one.
    rw [if_pos htrivial] at hbabel
    have hnull : Json.isTrivial .null = true := rfl
    simp only [ObjectDialect.assertion?, hbabel, hoxc, htrivial, hnull, if_true]
  · rw [if_neg htrivial] at hbabel
    simp only [ObjectDialect.assertion?, hbabel, hoxc, htrivial, Bool.false_eq_true, if_false,
      Json.elements]
    cases helements : (node.field "attributes").elements? with
    | none => rfl
    | some elements =>
      have hall : ∀ a ∈ elements, a.Everywhere Json.IsCommon := fun a ha =>
        hattributes.of_mem_elements? Json.isCommon_str helements ha
      exact congrArg Except.ok (typeAttribute?_eq hall)

/-- What is asked of an import expression is the same, and any other node is no
dynamic import here. -/
theorem dynamicLink?_eq (h : node.Everywhere Json.IsCommon) :
    babel.toDialect.dynamicLink? node = oxc.toDialect.dynamicLink? node := by
  -- A call is no import in a common tree, so only the expression is one.
  have hdynamic : Babel.isDynamicImport node = node.hasType "ImportExpression" := by
    rw [Babel.isDynamicImport]
    by_cases hcall : node.hasType "CallExpression" = true
    · simp [h.here.callee hcall]
    · simp [hcall]
  by_cases hexpression : node.hasType "ImportExpression" = true
  · have hobject := Json.isObject_of_hasType hexpression
    have hbabel : babel.importArgument node = .ok (node.field "source") := if_pos hexpression
    have hoxc : oxc.importArgument node = .ok (node.field "source") := if_pos hobject
    rw [ObjectDialect.dynamicLink?_of_argument (hdynamic.trans hexpression) hbabel,
      ObjectDialect.dynamicLink?_of_argument hexpression hoxc,
      literal?_eq (h.field Json.isCommon_null "source").here]
    rfl
  · have hnot : node.hasType "ImportExpression" = false := by simpa using hexpression
    rw [ObjectDialect.dynamicLink?_of_not (hdynamic.trans hnot),
      ObjectDialect.dynamicLink?_of_not hnot]

/-- **A common node is read alike** in both dialects, unless it is a call. -/
theorem readAlike (h : node.Everywhere Json.IsCommon) (hcall : node.hasType "CallExpression" = false) :
    Dialect.ReadAlike Eq babel.toDialect oxc.toDialect node node where
  form := by
    show babel.form? node = oxc.form? node
    simp [ObjectDialect.form?, babel, oxc, List.find?_cons, hcall]
  tags := by
    apply Dialect.alike_tags fun _ => rfl
    exact List.forall₂_same.2 fun spec hspec =>
      namedAlike (h.of_mem_specifiers Json.isCommon_null hspec)
  hasSource := rfl
  source := congrArg Except.ok (literal?_eq (h.field Json.isCommon_null "source").here)
  assertion := assertion?_eq h
  dynamic := by
    rw [dynamicLink?_eq h]
    exact .refl (fun _ => rfl) _
  malformed := fun _ => rfl

/-- **The link of a common node** is the same in both dialects. One of them looks at
every call, but a call that is no import makes no link. -/
theorem link?_eq (h : node.Everywhere Json.IsCommon) :
    babel.toDialect.link? node = oxc.toDialect.link? node := by
  by_cases hcall : node.hasType "CallExpression" = true
  · -- A node has one type, so a call has the form of a call or none.
    have hother : ∀ type, type ≠ "CallExpression" → node.hasType type = false :=
      fun _ => Json.hasType_eq_false hcall
    have hbabel : babel.toDialect.form? node = some .importCall := by
      show babel.form? node = _
      simp [ObjectDialect.form?, babel, hcall, hother]
    have hoxc : oxc.toDialect.form? node = none := by
      show oxc.form? node = _
      simp [ObjectDialect.form?, oxc, hother]
    have hnot : oxc.isDynamicImport node = false := hother _ (by decide)
    rw [Dialect.link?, Dialect.link?, hbabel, hoxc]
    exact (dynamicLink?_eq h).trans (ObjectDialect.dynamicLink?_of_not hnot)
  · exact ((readAlike h (by simpa using hcall)).link? fun _ => rfl).eq

/-! ## Surveys -/

theorem root_babel {document : Json} (h : document.hasType "Program" = true) :
    babel.toDialect.root (.json document) = .ok document := by
  have hobject := Json.isObject_of_hasType h
  have hfile : document.hasType "File" = false := Json.hasType_eq_false h (by decide)
  show babel.root (.json document) = _
  simp [ObjectDialect.root, babel, Babel.program?, Json.hasTypeIn, hobject, h, hfile]

/-- A program is no answer of a parser around one, since it has a type. -/
theorem root_oxc {document : Json} (h : document.hasType "Program" = true) :
    oxc.toDialect.root (.json document) = .ok document := by
  have hobject := Json.isObject_of_hasType h
  have hunwrap : Oxc.unwrap document = document := by
    unfold Oxc.unwrap
    cases htype : document.field? "type" with
    | none => simp [Json.hasType, Json.nodeType?, Json.field, htype, Json.text?] at h
    | some type => rfl
  show oxc.root (.json document) = _
  simp [ObjectDialect.root, oxc, hunwrap, hobject, Json.hasTypeIn, h]

/-- The two dialects walk any tree in the same order. -/
theorem preorder_eq (root : Json) :
    babel.toDialect.preorder root = oxc.toDialect.preorder root := by
  induction root using babel.toDialect.tree_induction with
  | step root ih =>
    have hchildren : babel.toDialect.children root = oxc.toDialect.children root := rfl
    rw [Dialect.preorder_eq, Dialect.preorder_eq, ← hchildren, List.flatMap_congr ih]

end CommonTree

namespace Dialect

variable {ν : Type}

/-- **A survey ends at a node** with a failure: the node comes right after `before` in
the preorder, and of all these its visit is the first that fails. -/
structure EndsAt (d : Dialect ν) (root : ν) (before : List ν) (node : ν) (e : Failure) :
    Prop where
  place : ∃ after, d.preorder root = before ++ node :: after
  passed : ∀ other ∈ before, d.visitFailure? other = none
  fails : d.visitFailure? node = some e

/-- **A survey fails** exactly if it ends at a node. -/
theorem outcome_eq_error_iff (d : Dialect ν) (file : Json) {subject : Subject} {root : ν}
    (h : d.root subject = .ok root) {e : Failure} :
    (d.survey file subject).outcome = .error e ↔ ∃ before node, d.EndsAt root before node e := by
  -- The outcome is that of the first visit that fails, and such a visit has a place.
  have hfind : (d.survey file subject).outcome = .error e
      ↔ (d.preorder root).findSome? d.visitFailure? = some e := by
    rw [d.survey_eq file h]
    cases (d.preorder root).findSome? d.visitFailure? with
    | none => simp [unlessFailed]
    | some other => simp [unlessFailed]
  rw [hfind, List.findSome?_eq_some_iff]
  constructor
  · rintro ⟨before, node, after, hsplit, hnode, hbefore⟩
    exact ⟨before, node, ⟨after, hsplit⟩, hbefore, hnode⟩
  · rintro ⟨before, node, ⟨after, hsplit⟩, hbefore, hnode⟩
    exact ⟨before, node, after, hsplit, hnode, hbefore⟩

/-- What one dialect makes of a list of nodes is what another one does if it makes the
same link of every node in it. -/
theorem gather_congr {d d' : Dialect ν} {nodes : List ν}
    (h : ∀ node ∈ nodes, d.link? node = d'.link? node) : d.gather nodes = d'.gather nodes := by
  induction nodes with
  | nil => rfl
  | cons node rest ih =>
    rw [List.forall_mem_cons] at h
    have hnode : d.contribution node = d'.contribution node := by
      rw [contribution, contribution, h.1]
    rw [gather, gather, hnode, ih h.2]

/-- A survey ends at the same node in two dialects that walk alike and make the same links. -/
theorem EndsAt.congr {d d' : Dialect ν} {root : ν} {before : List ν} {node : ν} {e : Failure}
    (hpreorder : d.preorder root = d'.preorder root)
    (hlink : ∀ node ∈ d.preorder root, d.link? node = d'.link? node)
    (h : d.EndsAt root before node e) : d'.EndsAt root before node e := by
  obtain ⟨after, hsplit⟩ := h.place
  -- Nodes up to the one where it ends are in the walk, and their visits fail alike.
  have hsame : ∀ other ∈ before ++ node :: after, d'.visitFailure? other = d.visitFailure? other := by
    intro other hother
    rw [← hsplit] at hother
    rw [visitFailure?, visitFailure?, hlink other hother]
  refine ⟨⟨after, hpreorder.symm.trans hsplit⟩, ?_, ?_⟩
  · intro other hother
    rw [hsame other (List.mem_append_left _ hother), h.passed other hother]
  · rw [hsame node (List.mem_append_right before List.mem_cons_self), h.fails]

theorem level_of_mem_visitWarnings {d : Dialect ν} {node : ν} {r : LogRecord}
    (h : r ∈ d.visitWarnings node) : r.level = .warning := by
  unfold visitWarnings at h
  split at h
  · rw [List.mem_singleton.1 h]
  · cases h

end Dialect

/-- **A survey in either dialect**: its warnings and how it ends are the same, and if it
fails, so is the node at which it does. -/
structure SurveyedAlike (file document : Json) (warnings : List LogRecord)
    (outcome : Except Failure (List Link)) : Prop where
  babel : DialectName.babel.survey file (.json document)
    = ⟨⟨.debug, ModuleLinks.babel.toDialect.opening file⟩ :: warnings, outcome⟩
  oxc : DialectName.oxc.survey file (.json document)
    = ⟨⟨.debug, ModuleLinks.oxc.toDialect.opening file⟩ :: warnings, outcome⟩
  level : ∀ r ∈ warnings, r.level = .warning
  /-- A survey that fails ends at a node. -/
  ends : ∀ e, outcome = .error e
    ↔ ∃ before node, ModuleLinks.babel.toDialect.EndsAt document before node e
  same : ∀ before node e, ModuleLinks.babel.toDialect.EndsAt document before node e
    ↔ ModuleLinks.oxc.toDialect.EndsAt document before node e

/-- **The surveys of a common tree are the same** in the dialects of the two parsers, save
for the record of the beginning, which names the dialect. -/
theorem survey_common (file document : Json) (hroot : document.hasType "Program" = true)
    (hcommon : document.Everywhere Json.IsCommon) :
    ∃ warnings outcome, SurveyedAlike file document warnings outcome := by
  have hbabel := CommonTree.root_babel hroot
  have hoxc := CommonTree.root_oxc hroot
  have hpreorder := CommonTree.preorder_eq document
  -- Every node of the walk is common, so its link is the same.
  have hlink : ∀ node ∈ babel.toDialect.preorder document,
      babel.toDialect.link? node = oxc.toDialect.link? node := fun node hnode =>
    CommonTree.link?_eq (babel.toDialect.forall_mem_preorder
      (fun _ h _ hchild => h.of_mem_children hchild) hcommon node hnode)
  have hgather := Dialect.gather_congr hlink
  refine ⟨_, _,
    { babel := babel.toDialect.survey_eq_gather file hbabel
      oxc := ?_
      level := ?_
      ends := ?_
      same := fun before node e => ⟨.congr hpreorder hlink, .congr hpreorder.symm ?_⟩ }⟩
  · rw [hgather, hpreorder]
    exact oxc.toDialect.survey_eq_gather file hoxc
  · intro r hr
    rw [Dialect.gather_eq] at hr
    obtain ⟨node, _, hnode⟩ := List.mem_flatMap.1 hr
    exact Dialect.level_of_mem_visitWarnings hnode
  · intro e
    rw [← babel.toDialect.outcome_eq_error_iff file hbabel,
      babel.toDialect.survey_eq_gather file hbabel]
  · intro node hnode
    rw [← hpreorder] at hnode
    exact (hlink node hnode).symm

/-- A tree that no parser writes: an import whose attributes are a text, an import
expression without a source, and a re-export whose attributes are a number. -/
def malformedProgram : Json :=
  placedNode "Program" 0
    [("body", .arr
      [placedNode "ImportDeclaration" 0
        [("source", placedNode "StringLiteral" 7 [("value", .ofString "./a.js")]),
          ("attributes", .ofString "ab")],
        placedNode "ImportExpression" 20 [("source", .null)],
        placedNode "ExportAllDeclaration" 40
          [("source", placedNode "StringLiteral" 54 [("value", .ofString "./b.js")]),
            ("attributes", .int 1)]])]

theorem survey_common_malformedProgram :
    malformedProgram.hasType "Program" = true ∧ malformedProgram.Everywhere Json.IsCommon
      ∧ ∃ warnings outcome, SurveyedAlike .null malformedProgram warnings outcome := by
  have hcommon : malformedProgram.Everywhere Json.IsCommon := by decide +kernel
  exact ⟨rfl, hcommon, survey_common .null malformedProgram rfl hcommon⟩

end ModuleLinks

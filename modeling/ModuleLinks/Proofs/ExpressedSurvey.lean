/-
Surveys of trees with import expressions.

A survey does not see whether dynamic imports are calls or expressions, except that a
report on a call without an argument names another type. The proof goes along the tree: a
call agrees with its expression, and any other node with its rewritten form, since the
questions of a survey look at names, texts and positions, and those are not rewritten.

Main statement: `survey_expressed`.
-/
import ModuleLinks.Proofs.Agreement
import ModuleLinks.Proofs.ImportExpressions
import ModuleLinks.Proofs.ObjectReading
import ModuleLinks.Proofs.SurveyFailure

set_option autoImplicit false

namespace ModuleLinks

/-! ## Questions about a rewritten node -/

/-- **Two failures that differ in a type at most**: they are the same, or reports on
declarations for the same reason. -/
inductive Failure.SameReport : Failure → Failure → Prop where
  | same (e : Failure) : SameReport e e
  | malformed (type type' reason : Json) :
    SameReport (.malformedDeclaration type reason) (.malformedDeclaration type' reason)

namespace Dialect

/-- A tree that yields nothing can be left out. -/
theorem gather_without {ν : Type} {d : Dialect ν} {node : ν} (h : d.Yields node [])
    (before after : List ν) :
    d.gather ((before ++ node :: after).flatMap d.preorder)
      = d.gather ((before ++ after).flatMap d.preorder) := by
  have hnode : d.gather (d.preorder node) = ⟨[], .ok []⟩ := h
  have hrest : d.gather ((node :: after).flatMap d.preorder)
      = d.gather (after.flatMap d.preorder) := by
    rw [List.flatMap_cons, gather_append, hnode]
    exact bind_pure (d.gather (after.flatMap d.preorder))
  rw [List.flatMap_append, List.flatMap_append, gather_append, gather_append, hrest]

end Dialect

namespace ImportExpressions

open Json

variable {node spec : Json}

theorem literal?_expressed (node : Json) : babel.literal? node.expressed = babel.literal? node := by
  show Babel.literal? _ = Babel.literal? _
  rw [Babel.literal?, Babel.literal?, hasType_expressed (by decide) (by decide),
    field_expressed (.inr (by decide)), text?_expressed]

/-- A plain node spells the same name: nothing under its name is a call. -/
theorem spelledName_expressed (h : node.IsPlain) :
    babel.spelledName node.expressed = babel.spelledName node := by
  show Babel.spelledName _ = Babel.spelledName _
  rw [Babel.spelledName, Babel.spelledName, hasType_expressed (by decide) (by decide),
    hasType_expressed (by decide) (by decide), field_expressed (.inr (by decide)),
    field_expressed (.inr (by decide))]
  by_cases hidentifier : node.hasType "Identifier" = true
  · rw [if_pos hidentifier, if_pos hidentifier, expressed_of_isTextOrNull (h.name hidentifier)]
  rw [if_neg hidentifier, if_neg hidentifier]
  by_cases hstring : node.hasType "StringLiteral" = true
  · rw [if_pos hstring, if_pos hstring, expressed_of_isTextOrNull (h.value hstring)]
  · rw [if_neg hstring, if_neg hstring]

/-- A name under a key that calls and expressions share stays. -/
theorem spelledName_field_expressed (h : node.Everywhere IsPlain) {key : String}
    (hkey : key ∉ rewrittenKeys) :
    babel.spelledName (node.expressed.field key) = babel.spelledName (node.field key) := by
  rw [field_expressed (.inr hkey), spelledName_expressed (h.field isPlain_null key).here]

/-- So a specifier has the same names, up to the type in its report. -/
theorem namedAlike (h : spec.Everywhere IsPlain) :
    Dialect.NamedAlike Failure.SameReport babel.toDialect babel.toDialect spec spec.expressed where
  reach := by
    show Json.reach spec = Json.reach spec.expressed
    simp [Json.reach, Json.hasTypeIn, hasType_expressed]
  imported := congrArg Except.ok (spelledName_field_expressed h (by decide)).symm
  taken := rfl
  bound := congrArg Except.ok (spelledName_field_expressed h (by decide)).symm
  exported := congrArg Except.ok (spelledName_field_expressed h (by decide)).symm
  malformed reason := .malformed _ _ _

/-- The specifiers of a declaration are rewritten one by one. -/
theorem specifiers_expressed (node : Json) :
    node.expressed.specifiers = node.specifiers.map expressed := by
  rw [specifiers, field_expressed (.inr (by decide)), items_expressed]
  exact filter_map_expressed isObject_expressed _

theorem tags_expressed (h : node.Everywhere IsPlain) :
    Outcome.Alike Failure.SameReport (babel.toDialect.tags node)
      (babel.toDialect.tags node.expressed) := by
  apply Dialect.alike_tags .same
  show List.Forall₂ _ node.specifiers node.expressed.specifiers
  rw [specifiers_expressed, List.forall₂_map_right_iff, List.forall₂_same]
  exact fun spec hspec => namedAlike (h.of_mem_specifiers isPlain_null hspec)

/-- The asserted type is found in the same attribute. -/
theorem typeAttribute?_expressed {attributes : List Json}
    (h : ∀ a ∈ attributes, a.Everywhere IsPlain) :
    babel.typeAttribute? (attributes.map expressed) = babel.typeAttribute? attributes := by
  induction attributes with
  | nil => rfl
  | cons a rest ih =>
    rw [List.forall_mem_cons] at h
    rw [List.map_cons, ObjectParser.typeAttribute?_cons, ObjectParser.typeAttribute?_cons, ih h.2,
      spelledName_field_expressed h.1 (by decide), field_expressed (.inr (by decide)),
      literal?_expressed]

/-- The keys of an object are no attributes. -/
theorem typeAttribute?_keys (fields : List (Text × Json)) :
    babel.typeAttribute? (fields.map fun field => .str field.1) = none := by
  induction fields with
  | nil => rfl
  | cons field rest ih =>
    rw [List.map_cons, ObjectParser.typeAttribute?_cons, ih]
    rfl

/-- **The asserted type stays**, whatever kind of value the attributes are. -/
theorem assertion?_expressed (h : node.Everywhere IsPlain) :
    babel.assertion? node.expressed = babel.assertion? node := by
  have hcollection : babel.attributes node.expressed = (babel.attributes node).expressed := by
    show Json.orElse _ _ = expressed (Json.orElse _ _)
    rw [field_expressed (.inr (by decide)), field_expressed (.inr (by decide)), Json.orElse,
      Json.orElse, isTrivial_expressed]
    split <;> rfl
  have hinside : (babel.attributes node).Everywhere IsPlain := by
    show (Json.orElse _ _).Everywhere IsPlain
    rw [Json.orElse]
    split
    · exact h.field isPlain_null "assertions"
    · exact h.field isPlain_null "attributes"
  rw [ObjectDialect.assertion?, ObjectDialect.assertion?, hcollection, isTrivial_expressed]
  by_cases htrivial : (babel.attributes node).isTrivial = true
  · rw [if_pos htrivial, if_pos htrivial]
  rw [if_neg htrivial, if_neg htrivial]
  -- The loop goes over items or over keys, or it cannot begin, and the rewriting keeps which.
  obtain ⟨_, hsame⟩ | ⟨items, hitems, hmapped⟩ | ⟨fields, fields', hfields, hfields'⟩ :=
    (babel.attributes node).expressed_cases
  · rw [hsame]
  · rw [hmapped, hitems]
    rw [hitems] at hinside
    exact congrArg Except.ok (typeAttribute?_expressed fun a ha => hinside.of_mem_items ha)
  · rw [hfields', hfields]
    exact congrArg Except.ok ((typeAttribute?_keys fields').trans (typeAttribute?_keys fields).symm)

/-! ## Dynamic imports -/

/-- What is a dynamic import and no call is an expression already. -/
theorem isDynamicImport_of_not (h : node.isImportCall = false) :
    babel.isDynamicImport node = node.hasType "ImportExpression" := by
  show (_ || node.isImportCall) = _
  rw [h, Bool.or_false]

/-- **Dynamic imports with corresponding arguments** make the same link, or are reported for
the same reason. -/
theorem dynamicLink?_alike {node' argument : Json} (hnode : babel.isDynamicImport node = true)
    (hnode' : babel.isDynamicImport node' = true) (hargument : babel.importArgument node = .ok argument)
    (hargument' : babel.importArgument node' = .ok argument.expressed) :
    Outcome.Alike Failure.SameReport (babel.toDialect.dynamicLink? node)
      (babel.toDialect.dynamicLink? node') := by
  rw [ObjectDialect.dynamicLink?_of_argument hnode hargument,
    ObjectDialect.dynamicLink?_of_argument hnode' hargument', isNull_expressed, literal?_expressed]
  by_cases hnull : argument.isNull = true
  · rw [if_pos hnull, if_pos hnull]
    exact .error (.malformed _ _ _)
  rw [if_neg hnull, if_neg hnull]
  rcases babel.literal? argument with _ | _ | ⟨c, rest⟩
  · exact .ok _
  · exact .error (.malformed _ _ _)
  · exact .ok _

theorem importArgument_expression (h : node.hasType "ImportExpression" = true) :
    babel.importArgument node = .ok (node.field "source") := if_pos h

/-- The argument of a call is the only one in its list, or `null` without one. -/
theorem importArgument_call (h : node.isImportCall = true) (hplain : node.IsPlainCall) :
    babel.importArgument node = .ok node.argument := by
  have hcall : node.hasType "CallExpression" = true := (Bool.and_eq_true _ _ ▸ h).1
  have hexpression : ¬node.hasType "ImportExpression" = true :=
    Bool.eq_false_iff.1 (hasType_eq_false hcall (by decide))
  show Babel.importArgument node = _
  rw [Babel.importArgument, if_neg hexpression, if_pos (isObject_of_hasType hcall), argument]
  obtain hlist | ⟨argument, _, hlist⟩ := isArgumentList_cases hplain.arguments <;> rw [hlist] <;> rfl

/-- **A call and its expression** make the same link. -/
theorem link?_call (h : node.isImportCall = true) (hplain : node.IsPlainCall) :
    Outcome.Alike Failure.SameReport (babel.toDialect.link? node)
      (babel.toDialect.link? node.expressed) := by
  obtain ⟨fields, rfl⟩ := exists_of_isImportCall h
  have hcall : (obj fields).hasType "CallExpression" = true := (Bool.and_eq_true _ _ ▸ h).1
  have hexpression : (expressed (obj fields)).hasType "ImportExpression" = true := by
    rw [hasType_iff, nodeType?_expressed_call h]
  have hother : ∀ type, type ≠ "CallExpression" → (obj fields).hasType type = false :=
    fun _ => hasType_eq_false hcall
  have hother' : ∀ type, type ≠ "ImportExpression" →
      (expressed (obj fields)).hasType type = false := fun _ => hasType_eq_false hexpression
  -- The forms differ, but either one leads to the question for a dynamic import.
  have hform : babel.toDialect.form? (obj fields) = some .importCall := by
    show babel.form? _ = _
    simp [ObjectDialect.form?, babel, hcall, hother]
  have hform' : babel.toDialect.form? (expressed (obj fields)) = some .importExpression := by
    show babel.form? _ = _
    simp [ObjectDialect.form?, babel, hexpression, hother']
  have hdynamic : babel.isDynamicImport (obj fields) = true := by
    show (_ || isImportCall _) = true
    rw [h, Bool.or_true]
  have hdynamic' : babel.isDynamicImport (expressed (obj fields)) = true :=
    (isDynamicImport_of_not (isImportCall_expressed _)).trans hexpression
  rw [Dialect.link?, Dialect.link?, hform, hform']
  exact dynamicLink?_alike hdynamic hdynamic' (importArgument_call h hplain)
    ((importArgument_expression hexpression).trans
      (congrArg Except.ok (hplain.field_source_expressed h)))

/-- **Any other node** is read alike after the rewriting. -/
theorem readAlike (hnot : node.isImportCall = false) (h : node.Everywhere IsPlain) :
    Dialect.ReadAlike Failure.SameReport babel.toDialect babel.toDialect node node.expressed where
  form := by
    show babel.form? node = babel.form? node.expressed
    simp only [ObjectDialect.form?, hasType, nodeType?_expressed hnot]
  tags := tags_expressed h
  hasSource := by
    show (!(node.field "source").isNull) = !(node.expressed.field "source").isNull
    rw [field_expressed (.inl hnot), isNull_expressed]
  source := by
    show Except.ok (babel.literal? _) = Except.ok (babel.literal? _)
    rw [field_expressed (.inl hnot), literal?_expressed]
  assertion := (assertion?_expressed h).symm
  dynamic := by
    have htype : node.expressed.hasType "ImportExpression" = node.hasType "ImportExpression" := by
      rw [hasType, nodeType?_expressed hnot]
      rfl
    -- Neither side is a call, so both are dynamic if they are expressions, and not else.
    have hdynamic := isDynamicImport_of_not hnot
    have hdynamic' := isDynamicImport_of_not (isImportCall_expressed node)
    by_cases hexpression : node.hasType "ImportExpression" = true
    · refine dynamicLink?_alike (hdynamic.trans hexpression)
        (hdynamic'.trans (htype.trans hexpression)) (importArgument_expression hexpression) ?_
      rw [importArgument_expression (htype.trans hexpression), field_expressed (.inl hnot)]
    · have hno : node.hasType "ImportExpression" = false := by simpa using hexpression
      rw [ObjectDialect.dynamicLink?_of_not (hdynamic.trans hno),
        ObjectDialect.dynamicLink?_of_not (hdynamic'.trans (htype.trans hno))]
      exact .ok none
  malformed reason := .malformed _ _ _

/-! ## Trees -/

/-- Two records of the same level. -/
def SameLevel (r r' : LogRecord) : Prop := r.level = r'.level

/-- Links that are made alike make the same contribution, up to the text of a warning. -/
theorem contribution_alike {d : Dialect Json} {node node' : Json}
    (h : Outcome.Alike Failure.SameReport (d.link? node) (d.link? node')) :
    Logged.Alike SameLevel (d.contribution node) (d.contribution node') := by
  rw [Dialect.contribution, Dialect.contribution]
  generalize d.link? node = made, d.link? node' = made' at h
  cases h with
  | ok link => exact ⟨.nil, rfl⟩
  | error hsame =>
    cases hsame with
    | same =>
      -- Equal failures are both logged or both end the survey.
      refine ⟨?_, rfl⟩
      split <;> first | exact .nil | exact .cons rfl .nil
    | malformed type type' reason => exact ⟨.cons rfl .nil, rfl⟩

/-- The callee of a plain call yields nothing. -/
theorem yields_callee (h : node.isImportCall = true) (hplain : node.IsPlainCall) :
    babel.toDialect.Yields (node.field "callee") [] := by
  have htype : (node.field "callee").hasType "Import" = true := (Bool.and_eq_true _ _ ▸ h).2
  have hobject := isObject_of_hasType htype
  have hmembers := hplain.callee
  have htypes : (node.field "callee").hasTypeIn ["Import"] = true := by simp [hasTypeIn, htype]
  have hform : babel.toDialect.form? (node.field "callee") = none :=
    ObjectDialect.form?_of_hasTypeIn htypes (by decide)
  refine Dialect.yields_nil hform fun child hchild => ?_
  have hnone : children babel.offset? (node.field "callee") = [] := by
    cases hcallee : node.field "callee" with
    | obj fields =>
      rw [hcallee] at hmembers
      have hfields : occurrences fields = [] := occurrences_eq_nil hmembers
      rw [children, hfields]
      exact (inOrder_perm _ _).eq_nil
    | _ => rw [hcallee] at hobject; cases hobject
  have hchild' : child ∈ children babel.offset? (node.field "callee") := hchild
  rw [hnone] at hchild'
  cases hchild'

/-- **Below a plain call** a survey finds what is in the argument. -/
theorem gather_children_call (h : node.isImportCall = true) (hplain : node.IsPlainCall) :
    babel.toDialect.gather ((babel.toDialect.children node).flatMap babel.toDialect.preorder)
      = babel.toDialect.gather ((node.field "arguments").items.flatMap babel.toDialect.preorder) := by
  obtain ⟨fields, rfl⟩ := exists_of_isImportCall h
  have hperm : (babel.toDialect.children (obj fields)).Perm
      ((obj fields).field "callee" :: ((obj fields).field "arguments").items) :=
    (inOrder_perm _ _).trans (hplain.occurrences_perm h)
  -- Positions decide whether the callee stands before the argument or behind it.
  obtain ⟨before, after, hsplit⟩ :=
    List.append_of_mem (hperm.mem_iff.2 List.mem_cons_self)
  rw [hsplit] at hperm
  have hothers : before ++ after = ((obj fields).field "arguments").items :=
    eq_of_perm_argumentList hplain.arguments (List.perm_middle.symm.trans hperm).cons_inv
  rw [hsplit, ← hothers, Dialect.gather_without (yields_callee h hplain)]

/-- **A tree agrees with its rewritten form.** -/
theorem agree_expressed (h : node.Everywhere IsPlain) :
    Dialect.Agree SameLevel babel.toDialect babel.toDialect node node.expressed := by
  induction node using babel.toDialect.tree_induction with
  | step node ih =>
    have hchildren : ∀ child ∈ babel.toDialect.children node,
        Dialect.Agree SameLevel babel.toDialect babel.toDialect child child.expressed :=
      fun child hchild => ih child hchild (h.of_mem_children hchild)
    by_cases hcall : node.isImportCall = true
    · -- Below the expression is the argument alone; below the call, the callee adds nothing.
      have hplain := h.here.call hcall
      apply Dialect.agree_of_below (contribution_alike (link?_call hcall hplain))
      rw [gather_children_call hcall hplain]
      obtain ⟨fields, rfl⟩ := exists_of_isImportCall hcall
      have hbelow : babel.toDialect.children (expressed (obj fields)) = _ :=
        hplain.children_expressed hcall
      rw [hbelow]
      apply Dialect.alike_gather
      rw [List.forall₂_map_right_iff, List.forall₂_same]
      intro argument hargument
      apply hchildren
      exact ((inOrder_perm _ _).trans (hplain.occurrences_perm hcall)).mem_iff.2
        (List.mem_cons_of_mem _ hargument)
    · have hnot : node.isImportCall = false := by simpa using hcall
      apply Dialect.agree_of_below (contribution_alike ((readAlike hnot h).link? .same))
      have hbelow : babel.toDialect.children node.expressed
          = (babel.toDialect.children node).map expressed := children_expressed hnot
      rw [hbelow]
      apply Dialect.alike_gather
      rw [List.forall₂_map_right_iff, List.forall₂_same]
      exact hchildren

/-- The root is a program, or that of a file. -/
theorem root_eq_ok_iff {document root : Json} :
    babel.toDialect.root (.json document) = .ok root
      ↔ document.hasTypeIn ["File", "Program"] = true ∧ Babel.program? document = some root := by
  show babel.root (.json document) = .ok root ↔ _
  by_cases htype : document.hasTypeIn ["File", "Program"] = true
  · have hobject := ObjectDialect.isObject_of_hasTypeIn htype
    simp only [ObjectDialect.root, babel, hobject, htype]
    cases Babel.program? document <;> simp
  · simp only [ObjectDialect.root, babel, htype]
    cases document.isObject <;> simp

/-- **The root of a rewritten tree** is the rewritten root. -/
theorem root_expressed {document root : Json}
    (h : babel.toDialect.root (.json document) = .ok root) :
    babel.toDialect.root (.json document.expressed) = .ok root.expressed := by
  rw [root_eq_ok_iff] at h ⊢
  refine ⟨?_, ?_⟩
  · simpa [hasTypeIn, hasType_expressed] using h.1
  · have hprogram : Babel.program? document.expressed
        = (Babel.program? document).map expressed := by
      rw [Babel.program?, Babel.program?, hasType_expressed (by decide) (by decide),
        field_expressed (.inr (by decide)), hasType_expressed (by decide) (by decide)]
      split
      · split <;> rfl
      · rfl
    rw [hprogram, h.2]
    rfl

/-- The root stands in the document, so it is as plain. -/
theorem everywhere_of_root {document root : Json} (hplain : document.Everywhere IsPlain)
    (h : babel.toDialect.root (.json document) = .ok root) : root.Everywhere IsPlain := by
  have hprogram := (root_eq_ok_iff.1 h).2
  rw [Babel.program?] at hprogram
  split at hprogram
  · split at hprogram
    · rw [← Option.some.inj hprogram]
      exact hplain.field isPlain_null "program"
    · cases hprogram
  · rwa [← Option.some.inj hprogram]

theorem map_level_eq {log log' : List LogRecord} (h : List.Forall₂ SameLevel log log') :
    log.map LogRecord.level = log'.map LogRecord.level := by
  induction h with
  | nil => rfl
  | cons hhead _ ih => exact congrArg₂ List.cons hhead ih

end ImportExpressions

/-- **Import expressions in place of calls** change nothing in a survey: its links are the
same, or the failure with which it ends, and it has as many warnings. -/
theorem survey_expressed (file document root : Json)
    (hroot : babel.toDialect.root (.json document) = .ok root)
    (hplain : document.Everywhere Json.IsPlain) :
    (DialectName.babel.survey file (.json document.expressed)).outcome
        = (DialectName.babel.survey file (.json document)).outcome
      ∧ (DialectName.babel.survey file (.json document.expressed)).log.map LogRecord.level
        = (DialectName.babel.survey file (.json document)).log.map LogRecord.level := by
  have hagree := ImportExpressions.agree_expressed
    (ImportExpressions.everywhere_of_root hplain hroot)
  have hbefore : DialectName.babel.survey file (.json document) = _ :=
    babel.toDialect.survey_eq_gather file hroot
  have hafter : DialectName.babel.survey file (.json document.expressed) = _ :=
    babel.toDialect.survey_eq_gather file (ImportExpressions.root_expressed hroot)
  rw [hbefore, hafter]
  exact ⟨hagree.outcome.symm, congrArg (Level.debug :: ·) (ImportExpressions.map_level_eq hagree.log).symm⟩

/-- A call of the import keyword with the given arguments. -/
def importCall (start : Int) (arguments : List Json) : Json :=
  placedNode "CallExpression" start
    [("callee", placedNode "Import" start []), ("arguments", .arr arguments)]

/-- A file with a call in the argument of another one, and a call without an argument. -/
def nestedCalls : Json :=
  placedNode "File" 0
    [("program", placedNode "Program" 0
      [("body", .arr
        [importCall 0 [importCall 7 [placedNode "StringLiteral" 14 [("value", .ofString "./a.js")]]],
          importCall 30 []])])]

theorem survey_expressed_nestedCalls :
    babel.toDialect.root (.json nestedCalls) = .ok (nestedCalls.field "program")
      ∧ nestedCalls.Everywhere Json.IsPlain
      ∧ (DialectName.babel.survey .null (.json nestedCalls.expressed)).outcome
        = (DialectName.babel.survey .null (.json nestedCalls)).outcome := by
  have hplain : nestedCalls.Everywhere Json.IsPlain := by decide +kernel
  exact ⟨rfl, hplain, (survey_expressed .null nestedCalls _ rfl hplain).1⟩

end ModuleLinks

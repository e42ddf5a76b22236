/-
What a link leads to, and what an analysis says of it.

A node that makes a link names the module that it imports from, or leaves that to be
computed when the module runs. An analysis that keeps all links reports one for each such
node, in order. Of a module that is named it says whether it lies inside the project, by
the name alone. Of a target that is computed it says nothing, and its source is a mark.

The mark stands in the place of a name, so a module can have it for a name, and nothing is
said of that module either. No other name is taken for the mark: where a source is rewritten
it stays relative, and the mark is not.

Main statement: `targets_of_run`.
-/
import ModuleLinks.Proofs.AnalysisResult

set_option autoImplicit false

namespace ModuleLinks

/-- The form is that of a declaration, and not of a dynamic import. -/
def Form.isDeclaration : Form → Bool
  | .importDeclaration | .namedExport | .wholeExport => true
  | .importCall | .importExpression => false

namespace Dialect

variable {ν : Type} {d : Dialect ν} {node : ν} {link : Link}

/-! ## Targets of nodes -/

/-- **What a node imports from**: the module that it names, or none if that is computed. A
declaration names its source; a dynamic import names a module if its argument is a literal. -/
inductive Targets (d : Dialect ν) (node : ν) : Option Text → Prop where
  | declared {form : Form} {t : Text} (hform : d.form? node = some form)
    (hkind : form.isDeclaration = true) (hsource : d.source? node = .ok (some t)) :
    Targets d node (some t)
  | imported {form : Form} {argument : ν} {t? : Option Text} (hform : d.form? node = some form)
    (hkind : form.isDeclaration = false) (hdynamic : d.isDynamicImport node = true)
    (hargument : d.importArgument? node = .ok (some argument))
    (hliteral : d.literal? argument = .ok t?) : Targets d node t?

/-- **A node has one target** at most. -/
theorem Targets.unique {t? u? : Option Text} (ht : d.Targets node t?) (hu : d.Targets node u?) :
    t? = u? := by
  cases ht with
  | declared hform hkind hsource =>
    cases hu with
    | declared _ _ hsource' => exact Except.ok.inj (hsource.symm.trans hsource')
    -- A declaration has no argument, so only two dynamic imports are left to compare.
    | imported hform' hkind' =>
      cases hform.symm.trans hform'
      cases hkind.symm.trans hkind'
  | imported hform hkind _ hargument hliteral =>
    cases hu with
    | declared hform' hkind' =>
      cases hform.symm.trans hform'
      cases hkind.symm.trans hkind'
    | imported _ _ _ hargument' hliteral' =>
      cases hargument.symm.trans hargument'
      exact Except.ok.inj (hliteral.symm.trans hliteral')

/-- The source of a link to a target: the name of the module, or the mark. -/
def sourceOf : Option Text → Json
  | some t => .str t
  | none => Link.computedSource

/-- The source of a dynamic import is the text of its argument, or the mark of a computed one. -/
theorem source_of_dynamicSource {argument : ν} {source : Json}
    (h : d.dynamicSource node argument = .ok source) :
    ∃ t?, d.literal? argument = .ok t? ∧ source = sourceOf t? := by
  obtain ⟨t?, hliteral, h⟩ := Outcome.bind_eq_ok.1 h
  refine ⟨t?, hliteral, ?_⟩
  split at h
  · cases h
  · exact (Except.ok.inj h).symm
  · exact (Except.ok.inj h).symm

/-- **A node that makes a link has a target**, and the link has the source for it. -/
theorem targets_of_link? (h : d.link? node = .ok (some link)) :
    ∃ t?, d.Targets node t? ∧ link.source = sourceOf t? := by
  -- A declaration makes its link of its source, whichever form it has.
  have hdeclared : ∀ (tags : List Json) {form : Form}, d.form? node = some form →
      form.isDeclaration = true → d.linkWith node tags = .ok link →
      ∃ t?, d.Targets node t? ∧ link.source = sourceOf t? := by
    intro tags form hform hkind hlink
    obtain ⟨t, _, _, hsource, rfl⟩ := exists_of_linkWith hlink
    exact ⟨some t, .declared hform hkind hsource, rfl⟩
  cases makes_of_link? h with
  | bindings hform _ hlink =>
    rcases hform with hform | hform
    · exact hdeclared _ hform rfl hlink
    · exact hdeclared _ hform rfl hlink
  | whole hform hlink => exact hdeclared _ hform rfl hlink
  | dynamic hform hdynamic hargument hsource =>
    obtain ⟨t?, hliteral, hsource⟩ := source_of_dynamicSource hsource
    rcases hform with hform | hform
    · exact ⟨t?, .imported hform rfl hdynamic hargument hliteral, hsource⟩
    · exact ⟨t?, .imported hform rfl hdynamic hargument hliteral, hsource⟩

/-! ## The nodes that make links -/

/-- The visit of the node puts out a link. -/
def makesLink (d : Dialect ν) (node : ν) : Bool := !(d.visitLinks node).isEmpty

/-- **The links of nodes** are those of the nodes that make one, in order. -/
theorem forall₂_makesLink (d : Dialect ν) (nodes : List ν) :
    List.Forall₂ (fun node link => d.link? node = .ok (some link)) (nodes.filter d.makesLink)
      (nodes.flatMap d.visitLinks) := by
  induction nodes with
  | nil => exact .nil
  | cons node rest ih =>
    rw [List.flatMap_cons, List.filter_cons, makesLink, visitLinks]
    split
    · next link? hlink =>
      cases link? with
      | none => exact ih
      | some link => exact .cons hlink ih
    · exact ih

theorem exists_root_of_survey {file : Json} {subject : Subject} {links : List Link}
    (h : (d.survey file subject).outcome = .ok links) : ∃ root, d.root subject = .ok root := by
  rcases hroot : d.root subject with e | root
  · rw [survey, hroot] at h
    cases h
  · exact ⟨root, rfl⟩

/-- **The links of a survey are made by its nodes**, one by one and in preorder. -/
theorem forall₂_of_survey {file : Json} {subject : Subject} {root : ν} {links : List Link}
    (hroot : d.root subject = .ok root) (h : (d.survey file subject).outcome = .ok links) :
    List.Forall₂ (fun node link => d.link? node = .ok (some link))
      ((d.preorder root).filter d.makesLink) links := by
  rw [d.survey_eq file hroot] at h
  unfold unlessFailed at h
  dsimp only at h
  split at h
  · cases h
  · obtain rfl := Except.ok.inj h
    exact d.forall₂_makesLink _

end Dialect

namespace Link

/-! ## What is said of a target -/

/-- **What a link says of its target**: that it is inside the project if it is a module with a
relative name, and outside if it is any other one. Nothing is said of a target that is computed,
and of the one module that has the mark for its name. -/
structure SaysOf (t? : Option Text) (link : Link) : Prop where
  unclassified : link.origin = none ↔ t? = none ∨ t? = some (Text.ofString "[variable]")
  marked : link.origin = none ↔ link.source = computedSource
  internal : link.origin = some .internal ↔ ∃ t, t? = some t ∧ Path.isRelative t = true
  external : link.origin = some .external
    ↔ ∃ t, t? = some t ∧ Path.isRelative t = false ∧ t ≠ Text.ofString "[variable]"

variable {fs : FileSystem} {importer root : Json} {link result : Link} {t? : Option Text}

/-- A link counts as computed if its source is spelled like the mark, whoever wrote it. -/
theorem isComputed_iff : link.isComputed = true ↔ link.source = computedSource := by
  rw [isComputed]
  constructor
  · intro hmark
    cases hsource : link.source with
    | str t =>
      rw [hsource] at hmark
      exact congrArg Json.str ((Text.is_iff _ _).1 hmark)
    | _ => rw [hsource] at hmark; cases hmark
  · intro hsource
    rw [hsource]
    decide

/-- So a literal that is spelled like the mark has the source of a computed argument. -/
theorem sourceOf_eq_computedSource_iff :
    Dialect.sourceOf t? = computedSource ↔ t? = none ∨ t? = some (Text.ofString "[variable]") := by
  cases t? with
  | none => simp [Dialect.sourceOf]
  | some t => simp [Dialect.sourceOf, computedSource, Json.ofString]

/-- A source is relative if it was read from a literal that is. -/
theorem isRelative_iff_of_source (hsource : link.source = Dialect.sourceOf t?) :
    link.isRelative = true ↔ ∃ t, t? = some t ∧ Path.isRelative t = true := by
  rw [isRelative, hsource]
  cases t? with
  | none =>
    refine iff_of_false (by decide) ?_
    rintro ⟨_, ht, -⟩
    cases ht
  | some t => simp [Dialect.sourceOf]

/-- **The normal form of a link says the right thing of its target.** -/
theorem saysOf_of_normalize (hlink : link.IsFound) (hsource : link.source = Dialect.sourceOf t?)
    (h : (normalize fs importer root link).outcome = .ok result) : SaysOf t? result := by
  have hrelative := isRelative_iff_of_source hsource
  have hmark : link.isComputed = true ↔ t? = none ∨ t? = some (Text.ofString "[variable]") := by
    rw [isComputed_iff, hsource, sourceOf_eq_computedSource_iff]
  have hunclassified := (isConsistent_of_normalize hlink.isConsistent h).2.trans isComputed_iff
  rcases hlink.normalize_cases h with ⟨hinside, c, rfl⟩ | ⟨houtside, rfl⟩
  · -- A relative name is not the mark.
    obtain ⟨t, rfl, ht⟩ := hrelative.1 hinside
    have hne : t ≠ Text.ofString "[variable]" := by
      rintro rfl
      exact absurd ht (by decide)
    refine ⟨by simp [hne], hunclassified, by simp [ht], ?_⟩
    simp [ht]
  · have hnotInside : ¬∃ t, t? = some t ∧ Path.isRelative t = true := by
      rw [← hrelative, houtside]
      exact Bool.false_ne_true
    by_cases hcomputed : link.isComputed = true
    · have horigin : link.outward.origin = none := by rw [outward, if_pos hcomputed]
      have hwhich := hmark.1 hcomputed
      refine ⟨iff_of_true horigin hwhich, hunclassified, ?_, ?_⟩
      · exact iff_of_false (by simp [horigin]) hnotInside
      · refine iff_of_false (by simp [horigin]) ?_
        rintro ⟨t, rfl, -, hne⟩
        exact hne (by simpa using hwhich)
    · have horigin : link.outward.origin = some .external := by rw [outward, if_neg hcomputed]
      have hwhich := mt hmark.2 hcomputed
      refine ⟨iff_of_false (by simp [horigin]) hwhich, hunclassified, ?_, ?_⟩
      · exact iff_of_false (by simp [horigin]) hnotInside
      · obtain ⟨hnamed, hne⟩ := not_or.1 hwhich
        obtain ⟨t, rfl⟩ := Option.ne_none_iff_exists'.1 hnamed
        exact iff_of_true horigin ⟨t, rfl, by simpa using hnotInside, by simpa using hne⟩

end Link

namespace Analysis

variable {a : Analysis} {fs : FileSystem} {links : List Link}

/-- **A link reports a node**: it says the right thing of the one target of the node. -/
def Reports {ν : Type} (d : Dialect ν) (node : ν) (link : Link) : Prop :=
  ∃ t?, (∀ u?, d.Targets node u? ↔ u? = t?) ∧ link.SaysOf t?

/-- **Normalization goes from links to links**, so each result still reports its node. -/
theorem reports_of_normalize {ν : Type} {d : Dialect ν} {importer root : Json} {nodes : List ν}
    {found normal : List Link}
    (hfound : List.Forall₂ (fun node link => d.link? node = .ok (some link)) nodes found)
    (h : (Link.normalizeAll fs importer root found).outcome = .ok normal) :
    List.Forall₂ (Reports d) nodes normal := by
  rw [Link.normalizeAll, Logged.outcome_mapM, Outcome.mapM_eq_ok] at h
  -- The links are normalized one by one, and each result stands for the node of its link.
  induction hfound generalizing normal with
  | nil =>
    rw [List.forall₂_nil_left_iff.1 h]
    exact .nil
  | @cons node link nodes found hlink _ ih =>
    obtain ⟨result, rest, hresult, hrest, rfl⟩ := List.forall₂_cons_left_iff.1 h
    obtain ⟨t?, htarget, hsource⟩ := Dialect.targets_of_link? hlink
    have hone : ∀ u?, d.Targets node u? ↔ u? = t? := fun u? =>
      ⟨fun hu => hu.unique htarget, fun hu => hu ▸ htarget⟩
    have hsays := Link.saysOf_of_normalize (Dialect.isFound_of_link? hlink) hsource hresult
    exact .cons ⟨t?, hone, hsays⟩ (ih hrest)

/-- **The links of an analysis that keeps all of them**: one for each node that makes a link, in
order, and each reports its node. So a link is left without an origin exactly if the target of its
node is computed, or is the module that has the mark for its name. -/
theorem targets_of_run {settings : Settings} (hsettings : a.settings = .ok settings)
    (hkeeps : settings.keepInternal.isTrivial = false) (h : (a.run fs).outcome = .ok links) :
    ∃ name root, a.dialectName = .ok name ∧ name.dialect.root a.subject = .ok root
      ∧ List.Forall₂ (Reports name.dialect)
        ((name.dialect.preorder root).filter name.dialect.makesLink) links := by
  obtain ⟨own, name, found, normal, hown, hname, hfound, hnormal, rfl⟩ := run_eq_ok.1 h
  obtain rfl := Except.ok.inj (hsettings.symm.trans hown)
  obtain ⟨root, hroot⟩ := Dialect.exists_root_of_survey hfound
  refine ⟨name, root, hname, hroot, ?_⟩
  rw [chosen, if_neg (by simp [hkeeps])]
  exact reports_of_normalize (Dialect.forall₂_of_survey hroot hfound) hnormal

/-- The module with three imports, analysed without a root, all links kept. -/
def keepingAnalysis : Analysis :=
  { mixedAnalysis "" "app.js" with own := .record { keepInternal := .bool true } }

theorem targets_of_run_mixedModule :
    (keepingAnalysis.run (FileSystem.projectAt [])).outcome = .ok (normalLinks "./lib")
      ∧ ∃ name root, keepingAnalysis.dialectName = .ok name
        ∧ name.dialect.root keepingAnalysis.subject = .ok root
        ∧ List.Forall₂ (Reports name.dialect)
          ((name.dialect.preorder root).filter name.dialect.makesLink) (normalLinks "./lib") := by
  have hrun : (keepingAnalysis.run (FileSystem.projectAt [])).outcome
      = .ok (normalLinks "./lib") :=
    run_eq_ok.2 ⟨_, .babel, Code.links mixedModule, normalLinks "./lib", rfl, rfl,
      outcome_survey_unplaced .babel mixedModule _, by rfl, by rfl⟩
  exact ⟨hrun, targets_of_run rfl rfl hrun⟩

/-- A module with one import, of the module that has the mark for its name. -/
def markModule : List Code.Item := [.importing [] ⟨⟨[.run "[variable]".toList]⟩, by decide⟩ []]

/-- A literal source that is spelled like the mark. -/
def markAnalysis : Analysis :=
  { keepingAnalysis with subject := Code.encode unplaced markModule .babel }

/-- The link of that import. -/
def markLink : Link where
  specifiers := [Link.fileTag]
  source := Link.computedSource

/-- **The name of a module can be taken for the mark.** The only link of the module is left without
an origin, as if its target were computed, and no node of the module has a computed target. -/
theorem origin_markModule :
    (markAnalysis.run (FileSystem.projectAt [])).outcome = .ok [markLink]
      ∧ markLink.origin = none
      ∧ ∃ root, DialectName.babel.dialect.root markAnalysis.subject = .ok root
        ∧ ∀ node ∈ DialectName.babel.dialect.preorder root,
          ¬DialectName.babel.dialect.Targets node none := by
  have hrun : (markAnalysis.run (FileSystem.projectAt [])).outcome = .ok [markLink] :=
    run_eq_ok.2 ⟨_, .babel, Code.links markModule, [markLink], rfl, rfl,
      outcome_survey_unplaced .babel markModule _, by rfl, by rfl⟩
  -- A computed target takes a dynamic import, and the module has none.
  have hstatic : ∀ node ∈ DialectName.babel.dialect.preorder
      (ObjectParser.babel.program unplaced markModule),
      DialectName.babel.dialect.isDynamicImport node = false := by
    decide +kernel
  refine ⟨hrun, rfl, ObjectParser.babel.program unplaced markModule, rfl, fun node hnode htarget => ?_⟩
  cases htarget with
  | imported _ _ hdynamic => exact Bool.false_ne_true ((hstatic node hnode).symm.trans hdynamic)

end Analysis

end ModuleLinks

/-
Surveys that agree.

Two trees can have the same links without being the same: they may be read in two
dialects, or one may be a rewritten form of the other. What makes their surveys agree
lies in the nodes. A node agrees with another one if the questions of a survey have the
same answers for both, up to the details of a failure, and trees agree if their roots
do and what is below them does.

How far failures may differ is a parameter: not at all where warnings have to be the
same, or in the text of a report where only their number counts. The lemmas follow the
way from a declaration to its link, one for each step.
-/
import ModuleLinks.Proofs.Outcome
import ModuleLinks.Proofs.Preorder

set_option autoImplicit false

namespace ModuleLinks

namespace Outcome

variable {α β γ : Type} {R : Failure → Failure → Prop}

/-- **Two computations end alike**: with the same value, or with related failures. -/
inductive Alike (R : Failure → Failure → Prop) : Except Failure α → Except Failure α → Prop where
  | ok (a : α) : Alike R (.ok a) (.ok a)
  | error {e e' : Failure} (h : R e e') : Alike R (.error e) (.error e')

theorem Alike.refl (hR : ∀ e, R e e) (x : Except Failure α) : Alike R x x := by
  cases x with
  | ok a => exact .ok a
  | error e => exact .error (hR e)

theorem Alike.eq {x y : Except Failure α} (h : Alike Eq x y) : x = y := by
  cases h with
  | ok a => rfl
  | error h => rw [h]

/-- Agreement goes through a sequence of two parts. -/
theorem Alike.bind {x y : Except Failure α} {f g : α → Except Failure β} (hxy : Alike R x y)
    (hfg : ∀ a, Alike R (f a) (g a)) : Alike R (x >>= f) (y >>= g) := by
  cases hxy with
  | ok a => exact hfg a
  | error h => exact .error h

theorem Alike.map {x y : Except Failure α} (hxy : Alike R x y) (f : α → β) :
    Alike R (x.map f) (y.map f) := by
  cases hxy with
  | ok a => exact .ok (f a)
  | error h => exact .error h

/-- Loops over lists end alike if they do so member by member. -/
theorem alike_mapM {f : α → Except Failure γ} {g : β → Except Failure γ} {as : List α}
    {bs : List β} (h : List.Forall₂ (fun a b => Alike R (f a) (g b)) as bs) :
    Alike R (as.mapM f) (bs.mapM g) := by
  induction h with
  | nil => exact .ok []
  | cons hhead _ ih =>
    rw [List.mapM_cons, List.mapM_cons]
    exact hhead.bind fun c => ih.bind fun cs => .ok (c :: cs)

end Outcome

namespace Logged

variable {α β : Type} {S : LogRecord → LogRecord → Prop}

/-- **Two computations with a log are alike**: they end in the same way, and their logs
are related record by record. -/
structure Alike (S : LogRecord → LogRecord → Prop) (x y : Logged α) : Prop where
  log : List.Forall₂ S x.log y.log
  outcome : x.outcome = y.outcome

/-- Logged results agree part by part: the records of the parts come one after the other. -/
theorem Alike.bind {x y : Logged α} {f g : α → Logged β} (hxy : Alike S x y)
    (hfg : ∀ a, Alike S (f a) (g a)) : Alike S (x >>= f) (y >>= g) := by
  obtain ⟨logx, outcome⟩ := x
  obtain ⟨logy, outcomey⟩ := y
  obtain rfl : outcome = outcomey := hxy.outcome
  cases outcome with
  | error e => exact ⟨hxy.log, rfl⟩
  | ok a => exact ⟨List.rel_append hxy.log (hfg a).log, (hfg a).outcome⟩

theorem alike_pure (a : α) : Alike S (pure a) (pure a) := ⟨.nil, rfl⟩

end Logged

namespace Dialect

variable {ν ν' : Type} {d : Dialect ν} {d' : Dialect ν'} {R : Failure → Failure → Prop}

/-! ## Specifiers -/

/-- **Two specifiers are named alike**: they bind as much of a module, and have the same
names. -/
structure NamedAlike (R : Failure → Failure → Prop) (d : Dialect ν) (d' : Dialect ν') (spec : ν)
    (spec' : ν') : Prop where
  reach : d.reach spec = d'.reach spec'
  imported : d.importedName spec = d'.importedName spec'
  taken : d.takenName spec = d'.takenName spec'
  bound : d.localName spec = d'.localName spec'
  exported : d.exportedName spec = d'.exportedName spec'
  malformed : ∀ reason, R (d.malformed spec reason) (d'.malformed spec' reason)

/-- **Specifiers that are named alike have the same tag**, or fail alike. -/
theorem NamedAlike.tag (hR : ∀ e, R e e) {spec : ν} {spec' : ν'}
    (h : NamedAlike R d d' spec spec') : Outcome.Alike R (d.tag spec) (d'.tag spec') := by
  have hfirst : d.firstName spec = d'.firstName spec' := by
    rw [firstName, firstName, h.imported, h.taken, h.bound, h.exported]
  rw [Dialect.tag, Dialect.tag, h.reach, h.exported, hfirst]
  by_cases hdefault : d'.reach spec' = .defaultExport
  · rw [if_pos hdefault, if_pos hdefault]
    exact .ok _
  rw [if_neg hdefault, if_neg hdefault]
  refine (Outcome.Alike.refl hR _).bind fun exported => ?_
  by_cases htext : exported.isText "default" = true
  · rw [if_pos htext, if_pos htext]
    exact .ok _
  rw [if_neg htext, if_neg htext]
  by_cases hwhole : d'.reach spec' = .wholeModule
  · rw [if_pos hwhole, if_pos hwhole]
    exact .ok _
  rw [if_neg hwhole, if_neg hwhole]
  refine (Outcome.Alike.refl hR _).bind fun name => ?_
  -- A specifier without a name is reported, with the type of its own node.
  by_cases hnull : name.isNull = true
  · rw [if_pos hnull, if_pos hnull]
    exact .error (h.malformed _)
  · rw [if_neg hnull, if_neg hnull]
    exact .ok _

/-- So have declarations whose specifiers are named alike, pair by pair. -/
theorem alike_tags (hR : ∀ e, R e e) {node : ν} {node' : ν'}
    (h : List.Forall₂ (NamedAlike R d d') (d.specifiers node) (d'.specifiers node')) :
    Outcome.Alike R (d.tags node) (d'.tags node') := by
  unfold tags
  cases hs : d.specifiers node with
  | nil =>
    rw [hs, List.forall₂_nil_left_iff] at h
    rw [h]
    exact .ok _
  | cons spec rest =>
    rw [hs, List.forall₂_cons_left_iff] at h
    obtain ⟨spec', rest', hspec, hrest, hs'⟩ := h
    rw [hs']
    exact Outcome.alike_mapM (.cons (hspec.tag hR) (hrest.imp fun _ _ hother => hother.tag hR))

/-! ## Declarations -/

/-- **Two nodes are read alike**: as declarations of the same form with the same tags,
source and asserted type, or as the same dynamic import. -/
structure ReadAlike (R : Failure → Failure → Prop) (d : Dialect ν) (d' : Dialect ν') (node : ν)
    (node' : ν') : Prop where
  form : d.form? node = d'.form? node'
  tags : Outcome.Alike R (d.tags node) (d'.tags node')
  hasSource : d.hasSource node = d'.hasSource node'
  source : d.source? node = d'.source? node'
  assertion : d.assertion? node = d'.assertion? node'
  dynamic : Outcome.Alike R (d.dynamicLink? node) (d'.dynamicLink? node')
  malformed : ∀ reason, R (d.malformed node reason) (d'.malformed node' reason)

namespace ReadAlike

variable {node : ν} {node' : ν'}

/-- Nodes that are read alike have the same source, or lack it alike. -/
theorem requiredSource (hR : ∀ e, R e e) (h : ReadAlike R d d' node node') :
    Outcome.Alike R (d.requiredSource node) (d'.requiredSource node') := by
  rw [Dialect.requiredSource, Dialect.requiredSource, h.source]
  refine (Outcome.Alike.refl hR _).bind fun source => ?_
  rcases source with _ | _ | ⟨c, rest⟩
  · exact .error (h.malformed _)
  · exact .error (h.malformed _)
  · exact .ok _

/-- With the same tags they make the same link, since source and assertion are the same. -/
theorem linkWith (hR : ∀ e, R e e) (h : ReadAlike R d d' node node') (tags : List Json) :
    Outcome.Alike R (d.linkWith node tags) (d'.linkWith node' tags) := by
  rw [Dialect.linkWith, Dialect.linkWith, h.assertion]
  exact (h.requiredSource hR).bind fun source =>
    (Outcome.Alike.refl hR _).bind fun assertion => .ok _

/-- An import makes the same link, its tags included. -/
theorem importLink (hR : ∀ e, R e e) (h : ReadAlike R d d' node node') :
    Outcome.Alike R (d.importLink node) (d'.importLink node') :=
  h.tags.bind (h.linkWith hR)

/-- **Nodes that are read alike** make the same link. -/
theorem link? (hR : ∀ e, R e e) (h : ReadAlike R d d' node node') :
    Outcome.Alike R (d.link? node) (d'.link? node') := by
  rw [Dialect.link?, Dialect.link?, h.form]
  -- The nodes have the same form, so the visits ask the same questions.
  cases d'.form? node' with
  | none => exact .ok none
  | some form =>
    cases form with
    | importDeclaration => exact (h.importLink hR).map some
    | namedExport =>
      show Outcome.Alike R (d.namedExportLink? node) (d'.namedExportLink? node')
      rw [namedExportLink?, namedExportLink?, h.hasSource]
      by_cases hsource : d'.hasSource node' = true
      · rw [if_pos hsource, if_pos hsource]
        exact (h.importLink hR).map some
      · rw [if_neg hsource, if_neg hsource]
        exact .ok none
    | wholeExport =>
      show Outcome.Alike R (d.wholeExportLink? node) (d'.wholeExportLink? node')
      rw [wholeExportLink?, wholeExportLink?, h.hasSource]
      by_cases hsource : d'.hasSource node' = true
      · rw [if_pos hsource, if_pos hsource]
        exact (h.linkWith hR _).map some
      · rw [if_neg hsource, if_neg hsource]
        exact .ok none
    | importCall => exact h.dynamic
    | importExpression => exact h.dynamic

end ReadAlike

/-! ## Trees -/

variable {S : LogRecord → LogRecord → Prop}

/-- **Two trees agree**: their surveys put out the same links, or end with the same
failure, and their logs are related. -/
def Agree (S : LogRecord → LogRecord → Prop) (d : Dialect ν) (d' : Dialect ν') (node : ν)
    (node' : ν') : Prop :=
  Logged.Alike S (d.gather (d.preorder node)) (d'.gather (d'.preorder node'))

/-- **Trees that agree node by node are walked alike**: the nodes of one preorder agree with those
of the other, and children are gathered after their parent in both. -/
theorem alike_gather {nodes : List ν} {nodes' : List ν'}
    (h : List.Forall₂ (Agree S d d') nodes nodes') :
    Logged.Alike S (d.gather (nodes.flatMap d.preorder))
      (d'.gather (nodes'.flatMap d'.preorder)) := by
  induction h with
  | nil => exact Logged.alike_pure []
  | cons hhead _ ih =>
    rw [List.flatMap_cons, List.flatMap_cons, gather_append, gather_append]
    exact Logged.Alike.bind hhead fun found => ih.bind fun others => Logged.alike_pure _

/-- **Trees agree** if their roots contribute alike, and what is below them agrees. -/
theorem agree_of_below {node : ν} {node' : ν'}
    (hnode : Logged.Alike S (d.contribution node) (d'.contribution node'))
    (hbelow : Logged.Alike S (d.gather ((d.children node).flatMap d.preorder))
      (d'.gather ((d'.children node').flatMap d'.preorder))) : Agree S d d' node node' := by
  rw [Agree, d.preorder_eq, d'.preorder_eq, gather, gather]
  exact hnode.bind fun found => hbelow.bind fun others => Logged.alike_pure _

/-- The survey of a tree is the record of its beginning and what its nodes contribute. -/
theorem survey_eq_gather (d : Dialect ν) (file : Json) {subject : Subject} {root : ν}
    (h : d.root subject = .ok root) :
    d.survey file subject
      = ⟨⟨.debug, d.opening file⟩ :: (d.gather (d.preorder root)).log,
          (d.gather (d.preorder root)).outcome⟩ := by
  rw [d.survey_eq file h, gather_eq]

end Dialect

/-! ## Dynamic imports in object trees -/

namespace ObjectDialect

variable {d : ObjectDialect} {node : Json}

/-- A call that is no dynamic import makes no link. -/
theorem dynamicLink?_of_not (h : d.isDynamicImport node = false) :
    d.toDialect.dynamicLink? node = .ok none := by
  have hdynamic : d.toDialect.isDynamicImport node = false := h
  rw [Dialect.dynamicLink?, hdynamic]
  rfl

/-- An argument that cannot be asked for makes the question for a link fail. -/
theorem dynamicLink?_of_error {e : Failure} (h : d.isDynamicImport node = true)
    (hargument : d.importArgument node = .error e) : d.toDialect.dynamicLink? node = .error e := by
  have hdynamic : d.toDialect.isDynamicImport node = true := h
  have hquestion : d.toDialect.importArgument? node = .error e := by
    show (d.importArgument node).map _ = _
    rw [hargument]
    rfl
  rw [Dialect.dynamicLink?, hdynamic, hquestion]
  rfl

/-- **The link of a dynamic import** follows from its argument alone. -/
theorem dynamicLink?_of_argument {argument : Json} (h : d.isDynamicImport node = true)
    (hargument : d.importArgument node = .ok argument) :
    d.toDialect.dynamicLink? node
      = if argument.isNull then
          .error (d.toDialect.malformed node "dynamic import without an argument")
        else match d.literal? argument with
          | some [] => .error (d.toDialect.malformed node "dynamic import of an empty string")
          | some source => .ok (some { specifiers := [Link.defaultTag], source := .str source })
          | none =>
            .ok (some { specifiers := [Link.defaultTag], source := Link.computedSource }) := by
  have hdynamic : d.toDialect.isDynamicImport node = true := h
  have hquestion : d.toDialect.importArgument? node
      = .ok (if argument.isNull then none else some argument) := by
    show (d.importArgument node).map _ = _
    rw [hargument]
    rfl
  rw [Dialect.dynamicLink?, hdynamic, hquestion]
  by_cases hnull : argument.isNull = true
  · rw [if_pos hnull, if_pos hnull]
    rfl
  · rw [if_neg hnull, if_neg hnull]
    have hliteral : d.toDialect.literal? argument = .ok (d.literal? argument) := rfl
    show (d.toDialect.dynamicSource node argument >>= fun source =>
      (.ok (some { specifiers := [Link.defaultTag], source := source })
        : Except Failure (Option Link))) = _
    rw [Dialect.dynamicSource, hliteral]
    rcases d.literal? argument with _ | _ | ⟨c, rest⟩ <;> rfl

end ObjectDialect

end ModuleLinks

/-
What the visit of a node aborts with.

A visit is a sequence of questions that are put to the dialect, and most of a visit only
goes on from one answer to the next question. So a visit **aborts only with** what one of
its questions does, whatever the dialect is. A visit that does not abort puts out a link
or a warning if the node refers to another module, and nothing if it does not.

Main statements: `QuestionsAbortOnly.link?` and `length_visit_of_passes`.
-/
import ModuleLinks.Proofs.SurveyFailure

set_option autoImplicit false

namespace ModuleLinks

/-! ## Parts of a visit -/

namespace Outcome

variable {α β : Type} {P : Failure → Prop}

/-- **A part of a visit aborts with nothing but** failures of a kind, if it aborts. -/
def AbortsOnly (P : Failure → Prop) (x : Except Failure α) : Prop :=
  ∀ e, abort? x = some e → P e

/-- A result aborts with nothing, and neither does the report of a malformed node. -/
theorem abortsOnly_ok (a : α) : AbortsOnly P (.ok a : Except Failure α) := nofun

theorem abortsOnly_malformed (type reason : Json) :
    AbortsOnly P (.error (.malformedDeclaration type reason) : Except Failure α) := nofun

/-- What is made of a result adds no way to abort. -/
theorem AbortsOnly.map {x : Except Failure α} (hx : AbortsOnly P x) (f : α → β) :
    AbortsOnly P (x.map f) := by
  intro e he
  rw [abort?_map] at he
  exact hx e he

/-- **Two parts abort in the ways of either**, the second one from a result of the first. -/
theorem AbortsOnly.bind {x : Except Failure α} {f : α → Except Failure β} (hx : AbortsOnly P x)
    (hf : ∀ a, x = .ok a → AbortsOnly P (f a)) : AbortsOnly P (x >>= f) := by
  intro e he
  rcases abort?_bind.1 he with hfirst | ⟨a, ha, hrest⟩
  · exact hx e hfirst
  · exact hf a ha e hrest

theorem AbortsOnly.ite {c : Prop} [Decidable c] {x y : Except Failure α} (hx : AbortsOnly P x)
    (hy : AbortsOnly P y) : AbortsOnly P (if c then x else y) := by
  split
  · exact hx
  · exact hy

/-- A question put to several aborts in the ways in which it does for each. -/
theorem AbortsOnly.mapM {f : α → Except Failure β} {as : List α}
    (hf : ∀ a ∈ as, AbortsOnly P (f a)) : AbortsOnly P (as.mapM f) := by
  induction as with
  | nil => exact abortsOnly_ok []
  | cons a as ih =>
    rw [List.forall_mem_cons] at hf
    rw [List.mapM_cons]
    exact hf.1.bind fun b _ => (ih hf.2).bind fun bs _ => abortsOnly_ok (b :: bs)

theorem AbortsOnly.mono {Q : Failure → Prop} {x : Except Failure α} (hx : AbortsOnly P x)
    (h : ∀ e, P e → Q e) : AbortsOnly Q x := fun e he => h e (hx e he)

end Outcome

open Outcome

/-! ## Visits -/

namespace Dialect

variable {ν : Type} {d : Dialect ν} {node spec : ν} {P : Failure → Prop}

/-- **The questions for the names of a specifier** abort with failures of a kind only. -/
structure NamesAbortOnly (d : Dialect ν) (spec : ν) (P : Failure → Prop) : Prop where
  imported : AbortsOnly P (d.importedName spec)
  taken : AbortsOnly P (d.takenName spec)
  bound : AbortsOnly P (d.localName spec)
  exported : AbortsOnly P (d.exportedName spec)

/-- **The questions of a visit** abort with failures of a kind only. -/
structure QuestionsAbortOnly (d : Dialect ν) (node : ν) (P : Failure → Prop) : Prop where
  names : ∀ spec ∈ d.specifiers node, d.NamesAbortOnly spec P
  source : AbortsOnly P (d.source? node)
  assertion : AbortsOnly P (d.assertion? node)
  argument : AbortsOnly P (d.importArgument? node)
  literal : ∀ argument, d.importArgument? node = .ok (some argument) →
    AbortsOnly P (d.literal? argument)

/-- The name of a specifier is one of its names, each asked for once. -/
theorem NamesAbortOnly.firstName (h : d.NamesAbortOnly spec P) :
    AbortsOnly P (d.firstName spec) :=
  h.imported.bind fun imported _ => .ite (abortsOnly_ok imported) <|
    h.taken.bind fun taken _ => .ite (abortsOnly_ok taken) <|
      h.bound.bind fun bound _ => .ite (abortsOnly_ok bound) h.exported

/-- Its tag asks for nothing else. -/
theorem NamesAbortOnly.tag (h : d.NamesAbortOnly spec P) : AbortsOnly P (d.tag spec) := by
  unfold Dialect.tag
  refine .ite (abortsOnly_ok _) (h.exported.bind fun exported _ => ?_)
  refine .ite (abortsOnly_ok _) (.ite (abortsOnly_ok _) (h.firstName.bind fun name _ => ?_))
  exact .ite (abortsOnly_malformed _ _) (abortsOnly_ok name)

/-- The tags of a declaration ask for the names of its specifiers. -/
theorem QuestionsAbortOnly.tags (h : d.QuestionsAbortOnly node P) :
    AbortsOnly P (d.tags node) := by
  unfold Dialect.tags
  split
  · exact abortsOnly_ok _
  · exact .mapM fun spec hspec => (h.names spec hspec).tag

/-- Its link asks for the source and the assertion besides. -/
theorem QuestionsAbortOnly.linkWith (h : d.QuestionsAbortOnly node P) (tags : List Json) :
    AbortsOnly P (d.linkWith node tags) := by
  have hsource : AbortsOnly P (d.requiredSource node) := by
    refine h.source.bind fun source? _ => ?_
    split
    · exact abortsOnly_ok _
    · exact abortsOnly_malformed _ _
  exact hsource.bind fun source _ => h.assertion.bind fun assertion _ => abortsOnly_ok _

theorem QuestionsAbortOnly.importLink (h : d.QuestionsAbortOnly node P) :
    AbortsOnly P (d.importLink node) :=
  h.tags.bind fun tags _ => h.linkWith tags

/-- A dynamic import asks for its argument. -/
theorem QuestionsAbortOnly.dynamicLink? (h : d.QuestionsAbortOnly node P) :
    AbortsOnly P (d.dynamicLink? node) := by
  unfold Dialect.dynamicLink?
  refine .ite (abortsOnly_ok none) (h.argument.bind fun argument? hargument => ?_)
  cases argument? with
  | none => exact abortsOnly_malformed _ _
  -- An argument that is there is asked for its text; an empty one is malformed.
  | some argument =>
    have hsource : AbortsOnly P (d.dynamicSource node argument) := by
      refine (h.literal argument hargument).bind fun literal? _ => ?_
      split
      · exact abortsOnly_malformed _ _
      · exact abortsOnly_ok _
      · exact abortsOnly_ok _
    exact hsource.bind fun source _ => abortsOnly_ok _

/-- **A visit aborts only with what one of its questions does.** -/
theorem QuestionsAbortOnly.link? (h : d.QuestionsAbortOnly node P) :
    AbortsOnly P (d.link? node) := by
  unfold Dialect.link?
  split
  · exact abortsOnly_ok none
  · exact h.importLink.map some
  · exact .ite (h.importLink.map some) (abortsOnly_ok none)
  · exact .ite ((h.linkWith _).map some) (abortsOnly_ok none)
  · exact h.dynamicLink?
  · exact h.dynamicLink?

/-! ## Declarations that refer to other modules -/

/-- **The node refers to another module**: an import, an export that has a source, or a dynamic
import. -/
def refersOut (d : Dialect ν) (node : ν) : Bool :=
  match d.form? node with
  | none => false
  | some .importDeclaration => true
  | some .namedExport | some .wholeExport => d.hasSource node
  | some .importCall | some .importExpression => d.isDynamicImport node

theorem isSome_of_map {x : Except Failure Link} {link? : Option Link}
    (h : x.map some = .ok link?) : link?.isSome = true := by
  obtain ⟨link, -, rfl⟩ := map_eq_ok.1 h
  rfl

theorem isSome_of_dynamicLink? {link? : Option Link} (hdynamic : d.isDynamicImport node = true)
    (h : d.dynamicLink? node = .ok link?) : link?.isSome = true := by
  unfold Dialect.dynamicLink? at h
  rw [hdynamic] at h
  obtain ⟨argument?, -, h⟩ := bind_eq_ok.1 h
  cases argument? with
  | none => cases h
  | some argument =>
    obtain ⟨source, -, h⟩ := bind_eq_ok.1 h
    rw [← Except.ok.inj h]
    rfl

/-- A node that refers to no other module makes nothing, and one that does makes a link unless it
fails. -/
theorem link?_cases (d : Dialect ν) (node : ν) :
    (d.refersOut node = false ∧ d.link? node = .ok none)
      ∨ (d.refersOut node = true ∧ ∀ link?, d.link? node = .ok link? → link?.isSome = true) := by
  -- Calls and import expressions ask for the import keyword, declarations for a source.
  have hdynamic : (d.isDynamicImport node = false ∧ d.dynamicLink? node = .ok none)
      ∨ (d.isDynamicImport node = true
        ∧ ∀ link?, d.dynamicLink? node = .ok link? → link?.isSome = true) := by
    cases h : d.isDynamicImport node with
    | false => exact .inl ⟨rfl, by simp [Dialect.dynamicLink?, h, pure, Except.pure]⟩
    | true => exact .inr ⟨rfl, fun _ => isSome_of_dynamicLink? h⟩
  unfold refersOut Dialect.link?
  cases d.form? node with
  | none => exact .inl ⟨rfl, rfl⟩
  | some form =>
    cases form with
    | importDeclaration => exact .inr ⟨rfl, fun _ => isSome_of_map⟩
    | namedExport =>
      unfold Dialect.namedExportLink?
      cases d.hasSource node with
      | false => exact .inl ⟨rfl, rfl⟩
      | true => exact .inr ⟨rfl, fun _ => isSome_of_map⟩
    | wholeExport =>
      unfold Dialect.wholeExportLink?
      cases d.hasSource node with
      | false => exact .inl ⟨rfl, rfl⟩
      | true => exact .inr ⟨rfl, fun _ => isSome_of_map⟩
    | importCall => exact hdynamic
    | importExpression => exact hdynamic

/-- **A visit that does not abort** puts out one thing, a link or a warning, if the node refers to
another module, and nothing otherwise. -/
theorem length_visit_of_passes (h : d.visitFailure? node = none) :
    (d.visitLinks node).length + (d.visitWarnings node).length
      = if d.refersOut node then 1 else 0 := by
  unfold visitLinks visitWarnings
  rcases d.link?_cases node with ⟨hrefers, hlink⟩ | ⟨hrefers, hsome⟩
  · rw [hrefers, hlink]
    rfl
  · -- What is left is a link or a malformed declaration, as any other failure would abort.
    rw [hrefers]
    unfold visitFailure? at h
    cases hlink : d.link? node with
    | ok link? =>
      obtain ⟨link, rfl⟩ := Option.isSome_iff_exists.1 (hsome link? hlink)
      rfl
    | error e =>
      rw [hlink] at h
      cases e <;> first | rfl | cases h

end Dialect

end ModuleLinks

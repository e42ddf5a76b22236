/-
Links as a survey finds them.

A survey fills a link in from one declaration and looks at no file. What it finds
is therefore known before anything is normalized: a link has a tag at least, its
source and the type it asserts are texts if they are there, the source is not
empty, and no origin is known. Everything that is said about links later on begins
with these facts, or with the way in which a node made the link: of its bindings,
of everything that the other module exports, or of the argument of a dynamic import.

The name of the file appears in the record with which a survey begins, and nowhere
else.

Main statement: `isFound_of_survey`.
-/
import ModuleLinks.Proofs.Outcome
import ModuleLinks.Proofs.Preorder

set_option autoImplicit false

namespace ModuleLinks

/-- **A link as a survey finds it.** -/
structure Link.IsFound (link : Link) : Prop where
  specifiers_ne_nil : link.specifiers ≠ []
  exists_source : ∃ t, t ≠ [] ∧ link.source = .str t
  exists_assertion : ∃ t?, link.assertion = Json.ofText? t?
  origin : link.origin = none

namespace Dialect

variable {ν : Type} {d : Dialect ν} {node : ν} {link : Link} {tags : List Json}

/-! ## The ways to make a link -/

/-- **How a node makes a link**: of its bindings, of everything that the other module exports, or of
the argument of a dynamic import. -/
inductive Makes (d : Dialect ν) (node : ν) : Link → Prop where
  | bindings {tags : List Json} {link : Link}
      (hform : d.form? node = some .importDeclaration ∨ d.form? node = some .namedExport)
      (htags : d.tags node = .ok tags) (hlink : d.linkWith node tags = .ok link) : Makes d node link
  | whole {link : Link} (hform : d.form? node = some .wholeExport)
      (hlink : d.linkWith node [Link.namespaceTag] = .ok link) : Makes d node link
  | dynamic {argument : ν} {source : Json}
      (hform : d.form? node = some .importCall ∨ d.form? node = some .importExpression)
      (hdynamic : d.isDynamicImport node = true)
      (hargument : d.importArgument? node = .ok (some argument))
      (hsource : d.dynamicSource node argument = .ok source) :
      Makes d node { specifiers := [Link.defaultTag], source }

/-- An import, or an export of names, makes its link by its specifiers. -/
theorem makes_of_importLink
    (hform : d.form? node = some .importDeclaration ∨ d.form? node = some .namedExport)
    (h : (d.importLink node).map some = .ok (some link)) : d.Makes node link := by
  obtain ⟨other, hother, hsome⟩ := Outcome.map_eq_ok.1 h
  obtain rfl := Option.some.inj hsome
  obtain ⟨tags, htags, hlink⟩ := Outcome.bind_eq_ok.1 hother
  exact .bindings hform htags hlink

/-- A dynamic import makes its link by its argument. -/
theorem makes_of_dynamicLink?
    (hform : d.form? node = some .importCall ∨ d.form? node = some .importExpression)
    (h : d.dynamicLink? node = .ok (some link)) : d.Makes node link := by
  unfold dynamicLink? at h
  split at h
  · cases h
  · next hdynamic =>
    obtain ⟨argument?, hargument, h⟩ := Outcome.bind_eq_ok.1 h
    cases argument? with
    | none => cases h
    | some argument =>
      obtain ⟨source, hsource, h⟩ := Outcome.bind_eq_ok.1 h
      obtain rfl := Option.some.inj (Except.ok.inj h)
      exact .dynamic hform (by simpa using hdynamic) hargument hsource

/-- **There is no other way** to make a link. -/
theorem makes_of_link? (h : d.link? node = .ok (some link)) : d.Makes node link := by
  -- One case for each form of a node; exports make a link only where they name a module.
  unfold Dialect.link? at h
  split at h
  · cases h
  · next hform => exact makes_of_importLink (.inl hform) h
  · next hform =>
    unfold namedExportLink? at h
    split_ifs at h
    · exact makes_of_importLink (.inr hform) h
    · cases h
  · next hform =>
    unfold wholeExportLink? at h
    split_ifs at h
    · obtain ⟨other, hother, hsome⟩ := Outcome.map_eq_ok.1 h
      obtain rfl := Option.some.inj hsome
      exact .whole hform hother
    · cases h
  · next hform => exact makes_of_dynamicLink? (.inl hform) h
  · next hform => exact makes_of_dynamicLink? (.inr hform) h

/-! ## What is in a link -/

/-- A declaration without specifiers has the tag of a file, so there is always one. -/
theorem tags_ne_nil (h : d.tags node = .ok tags) : tags ≠ [] := by
  unfold Dialect.tags at h
  split at h
  · obtain rfl := Except.ok.inj h
    exact List.cons_ne_nil _ _
  · next hspecifiers =>
    -- There is a tag for each specifier, and a specifier at least.
    rintro rfl
    have hlength := (Outcome.mapM_eq_ok.1 h).length_eq
    exact hspecifiers (List.length_eq_zero_iff.1 hlength)

/-- A source that is required is there, and not empty. -/
theorem source?_of_requiredSource {t : Text} (h : d.requiredSource node = .ok t) :
    t ≠ [] ∧ d.source? node = .ok (some t) := by
  obtain ⟨source?, hsource, h⟩ := Outcome.bind_eq_ok.1 h
  split at h
  · obtain rfl := Except.ok.inj h
    exact ⟨List.cons_ne_nil _ _, hsource⟩
  · cases h

/-- **The link of a declaration** has the given tags, and the source that the declaration names. -/
theorem exists_of_linkWith (h : d.linkWith node tags = .ok link) :
    ∃ t assertion, t ≠ [] ∧ d.source? node = .ok (some t)
      ∧ link = { specifiers := tags, source := .str t, assertion := Json.ofText? assertion } := by
  obtain ⟨t, ht, h⟩ := Outcome.bind_eq_ok.1 h
  obtain ⟨assertion, _, h⟩ := Outcome.bind_eq_ok.1 h
  obtain ⟨hne, hsource⟩ := source?_of_requiredSource ht
  exact ⟨t, assertion, hne, hsource, (Except.ok.inj h).symm⟩

theorem isFound_of_linkWith (htags : tags ≠ []) (h : d.linkWith node tags = .ok link) :
    link.IsFound := by
  obtain ⟨t, assertion, hne, _, rfl⟩ := exists_of_linkWith h
  exact ⟨htags, ⟨t, hne, rfl⟩, ⟨assertion, rfl⟩, rfl⟩

/-- The source of a dynamic import is the text of the literal, or the mark for one that is
computed. -/
theorem exists_text_of_dynamicSource {argument : ν} {source : Json}
    (h : d.dynamicSource node argument = .ok source) : ∃ t, t ≠ [] ∧ source = .str t := by
  obtain ⟨literal?, _, h⟩ := Outcome.bind_eq_ok.1 h
  split at h
  · cases h
  · next t hne _ => exact ⟨t, hne, (Except.ok.inj h).symm⟩
  · exact ⟨Text.ofString "[variable]", by decide, (Except.ok.inj h).symm⟩

/-- **A node makes a link of this kind**, if it makes one. -/
theorem isFound_of_link? (h : d.link? node = .ok (some link)) : link.IsFound := by
  cases makes_of_link? h with
  | bindings _ htags hlink => exact isFound_of_linkWith (tags_ne_nil htags) hlink
  | whole _ hlink => exact isFound_of_linkWith (List.cons_ne_nil _ _) hlink
  | dynamic _ _ _ hsource =>
    exact ⟨List.cons_ne_nil _ _, exists_text_of_dynamicSource hsource, ⟨none, rfl⟩, rfl⟩

/-! ## The survey -/

/-- **A survey finds nothing but such links.** -/
theorem isFound_of_survey {file : Json} {subject : Subject} {links : List Link}
    (h : (d.survey file subject).outcome = .ok links) : ∀ link ∈ links, link.IsFound := by
  intro link hlink
  rcases hroot : d.root subject with e | root
  · rw [survey, hroot] at h
    cases h
  · rw [d.survey_eq file hroot] at h
    unfold unlessFailed at h
    dsimp only at h
    split at h
    · cases h
    · obtain rfl := Except.ok.inj h
      obtain ⟨node, _, hnode⟩ := List.mem_flatMap.1 hlink
      unfold visitLinks at hnode
      split at hnode
      · next found hfound =>
        rw [Option.mem_toList.1 hnode] at hfound
        exact isFound_of_link? hfound
      · cases hnode

/-- **What is found does not depend on the name of the file.** -/
theorem outcome_survey_file (d : Dialect ν) (file other : Json) (subject : Subject) :
    (d.survey file subject).outcome = (d.survey other subject).outcome := by
  simp only [survey, Logged.outcome_bind]
  rfl

end Dialect

end ModuleLinks

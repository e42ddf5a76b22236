/-
Archives, saved and loaded.

The links that an archive is made for hold texts: their tags, their sources and
the types they assert. Such a link comes back from an archive as it was, with
two exceptions. An assertion that is empty says nothing and is left out. And a
high surrogate with a low one behind it is written like the code point that the
two make, so it comes back as that code point.

Main statement: `load_save`. What comes back has the same archive, so saving and
loading once more changes nothing.
-/
import Mathlib.Data.List.Nodup
import ModuleLinks.Dialect.Basic
import ModuleLinks.Link.Archive
import ModuleLinks.Proofs.LinkRecord
import ModuleLinks.Proofs.ValueReading

set_option autoImplicit false

namespace ModuleLinks

/-- **A link whose fields are texts.** -/
structure TextLink where
  specifiers : List Text
  source : Text
  assertion : Option Text
  origin : Option Origin

namespace TextLink

/-- The link, with texts for its values. -/
def link (l : TextLink) : Link where
  specifiers := l.specifiers.map Json.str
  source := .str l.source
  assertion := Json.ofText? l.assertion
  origin := l.origin

/-- **The link as it comes back**: without an assertion that is empty, and with
the halves of pairs joined in every text. -/
def reloaded (l : TextLink) : TextLink where
  specifiers := l.specifiers.map Text.joined
  source := l.source.joined
  assertion := (l.assertion.filter fun t => !t.isEmpty).map Text.joined
  origin := l.origin

/-! ## The fields of a record -/

/-- The field for the assertion, if there is something in it. -/
def assertionField (l : TextLink) : List (Text × Json) :=
  ((l.assertion.filter fun t => !t.isEmpty).map fun t => (Text.ofString "assertionType", Json.str t)).toList

/-- The field for the origin of a link that is classified. -/
def originField (l : TextLink) : List (Text × Json) :=
  (l.origin.map fun origin => (Text.ofString "classification", Json.ofString origin.name)).toList

theorem record_link (l : TextLink) :
    Link.record l.link
      = .obj ([(Text.ofString "importSpecifiers", .arr (l.specifiers.map Json.str)),
          (Text.ofString "source", .str l.source)] ++ l.assertionField ++ l.originField) := by
  obtain ⟨specifiers, source, assertion, origin⟩ := l
  rcases assertion with _ | _ | ⟨c, t⟩ <;> cases origin <;> rfl

theorem isEmpty_joined (t : Text) : t.joined.isEmpty = t.isEmpty := by
  fun_cases Text.joined t <;> simp

/-- The field for the assertion in the record of what was reloaded. -/
theorem assertionField_reloaded (l : TextLink) :
    l.reloaded.assertionField
      = ((l.assertion.filter fun t => !t.isEmpty).map fun t =>
          (Text.ofString "assertionType", Json.str (Text.joined t))).toList := by
  obtain ⟨specifiers, source, assertion, origin⟩ := l
  rcases assertion with _ | _ | ⟨c, t⟩
  · rfl
  · rfl
  · have hne : (Text.joined (c :: t)).isEmpty = false := isEmpty_joined (c :: t)
    simp [assertionField, reloaded, Option.filter, hne]

/-! ## Reading a record -/

section Layouts

variable {layout : Json.Layout}

/-- A string of characters is read as it was written. -/
theorem reads_ofString (s : String) :
    Json.Reads layout (Json.ofString s) (.ok (Json.ofString s)) := by
  have h := Json.reads_str layout (Text.ofString s)
  rwa [Text.joined_ofString] at h

/-- The field for the assertion is read as that of the reloaded link. -/
theorem forall₂_assertionField (l : TextLink) :
    List.Forall₂ (fun field k => Json.Reads layout field.2 (.ok k.2) ∧ k.1 = field.1.joined)
      l.assertionField l.reloaded.assertionField := by
  rw [assertionField_reloaded, assertionField]
  cases l.assertion.filter (fun t => !t.isEmpty) with
  | none => exact .nil
  | some t => exact .cons ⟨Json.reads_str layout t, (Text.joined_ofString _).symm⟩ .nil

theorem forall₂_originField (l : TextLink) :
    List.Forall₂ (fun field k => Json.Reads layout field.2 (.ok k.2) ∧ k.1 = field.1.joined)
      l.originField l.reloaded.originField := by
  rw [originField, originField]
  show List.Forall₂ _ (Option.toList (l.origin.map _)) (Option.toList (l.origin.map _))
  cases l.origin with
  | none => exact .nil
  | some origin => exact .cons ⟨reads_ofString origin.name, (Text.joined_ofString _).symm⟩ .nil

theorem nodup_keys (l : TextLink) (specifiers source : Json) :
    (([(Text.ofString "importSpecifiers", specifiers), (Text.ofString "source", source)]
      ++ l.assertionField ++ l.originField).map Prod.fst).Nodup := by
  unfold assertionField originField
  cases l.assertion.filter (fun t => !t.isEmpty) <;> cases l.origin <;> simp

/-- **A record is read** as that of the link as it comes back. -/
theorem reads_record (hl : layout.Legible) (l : TextLink) :
    Json.Reads layout (Link.record l.link) (.ok (Link.record l.reloaded.link)) := by
  have hspecifiers : Json.Reads layout (.arr (l.specifiers.map Json.str))
      (.ok (.arr ((l.specifiers.map Text.joined).map Json.str))) := by
    apply Json.reads_arr_ok hl
    rw [List.map_map, List.forall₂_map_left_iff, List.forall₂_map_right_iff, List.forall₂_same]
    exact fun t _ => Json.reads_str layout t
  -- The record is put together from four lists of fields, and so is how it is read.
  rw [record_link, record_link]
  apply Json.reads_obj_ok hl _ (nodup_keys _ _ _)
  have hfirst : Json.Reads layout (.str l.source) (.ok (.str l.source.joined)) :=
    Json.reads_str layout l.source
  exact List.rel_append (List.rel_append
    (.cons ⟨hspecifiers, (Text.joined_ofString _).symm⟩
      (.cons ⟨hfirst, (Text.joined_ofString _).symm⟩ .nil))
    l.forall₂_assertionField) l.forall₂_originField

/-- The record of the link as it comes back has the same document. -/
theorem sameDocument_record (l : TextLink) :
    Json.SameDocument layout (Link.record l.reloaded.link) (Link.record l.link) := by
  have hspecifiers : Json.SameDocument layout (.arr ((l.specifiers.map Text.joined).map Json.str))
      (.arr (l.specifiers.map Json.str)) := by
    apply Json.sameDocument_arr
    rw [List.map_map, List.forall₂_map_left_iff, List.forall₂_map_right_iff, List.forall₂_same]
    exact fun t _ => Json.sameDocument_str layout t
  -- An empty assertion is left out of both records, and any other one has the same document.
  have hassertion : List.Forall₂
      (fun f g : Text × Json => f.1 = g.1 ∧ Json.SameDocument layout f.2 g.2)
      l.reloaded.assertionField l.assertionField := by
    rw [assertionField_reloaded, assertionField]
    cases l.assertion.filter (fun t => !t.isEmpty) with
    | none => exact .nil
    | some t => exact .cons ⟨rfl, Json.sameDocument_str layout t⟩ .nil
  rw [record_link, record_link]
  apply Json.sameDocument_obj
  exact List.rel_append (List.rel_append
    (.cons ⟨rfl, hspecifiers⟩ (.cons ⟨rfl, Json.sameDocument_str layout l.source⟩ .nil))
    hassertion) (List.forall₂_same.2 fun _ _ => ⟨rfl, fun _ => rfl⟩)

/-- **The record of a link is printed in ASCII**, whatever its texts hold. -/
theorem isAscii_record (hl : layout.Legible) (l : TextLink) (depth : ℕ) :
    Json.IsAscii (Json.render layout depth (Link.record l.link)) := by
  have hstr : ∀ (t : Text) (depth : ℕ), Json.IsAscii (Json.render layout depth (.str t)) := by
    intro t depth
    rw [Json.render]
    exact Json.isAscii_quotedText t
  rw [record_link]
  apply Json.isAscii_render_obj hl
  intro field hfield depth
  simp only [List.mem_append, List.mem_cons, List.not_mem_nil, or_false] at hfield
  rcases hfield with ((rfl | rfl) | hassertion) | horigin
  · apply Json.isAscii_render_arr hl
    intro j hj depth
    obtain ⟨t, _, rfl⟩ := List.mem_map.1 hj
    exact hstr t depth
  · exact hstr l.source depth
  · obtain ⟨t, _, rfl⟩ := Option.map_eq_some_iff.1 (Option.mem_toList.1 hassertion)
    exact hstr t depth
  · obtain ⟨origin, _, rfl⟩ := Option.map_eq_some_iff.1 (Option.mem_toList.1 horigin)
    exact hstr _ depth

end Layouts

/-! ## From the record to the link -/

/-- A record that says all about a link gives the link back. -/
theorem ofRecord_record {l : TextLink} (h : l.assertion ≠ some []) :
    Link.ofRecord (Link.record l.link) = .ok l.link := by
  have hkept : l.link.recorded = l.link := by
    obtain ⟨specifiers, source, assertion, origin⟩ := l
    rw [Link.recorded_eq_self_iff]
    rcases assertion with _ | _ | ⟨c, t⟩
    · exact fun _ => rfl
    · exact absurd rfl h
    · exact nofun
  rw [Link.ofRecord_record, hkept]

/-- No empty assertion is left after reloading. -/
theorem reloaded_assertion_ne (l : TextLink) : l.reloaded.assertion ≠ some [] := by
  obtain ⟨specifiers, source, assertion, origin⟩ := l
  rcases assertion with _ | _ | ⟨c, t⟩
  · exact nofun
  · exact nofun
  · intro h
    have hempty := isEmpty_joined (c :: t)
    rw [Option.some.inj h] at hempty
    cases hempty

theorem mapM_ofRecord (links : List TextLink) :
    (links.map fun l => Link.record l.reloaded.link).mapM Link.ofRecord
      = .ok (links.map fun l => l.reloaded.link) := by
  induction links with
  | nil => rfl
  | cons l links ih =>
    rw [List.map_cons, List.mapM_cons, ofRecord_record l.reloaded_assertion_ne, ih]
    rfl

end TextLink

/-! ## Whole archives -/

/-- **Saving and loading are inverse** over all links that hold texts. An archive
is in ASCII. Loading it succeeds and gives every link back, but for assertions
that are empty and for halves that make pairs. Saving what was loaded writes the
same archive. -/
theorem load_save (links : List TextLink) :
    Json.IsAscii (Link.save (links.map TextLink.link))
      ∧ Link.load (Link.save (links.map TextLink.link))
        = .ok (links.map fun l => l.reloaded.link)
      ∧ Link.save (links.map fun l => l.reloaded.link) = Link.save (links.map TextLink.link) := by
  have hl := Json.Layout.legible_indented
  have hrecord : ∀ make : TextLink → Link, Link.listRecord (links.map make)
      = .obj [(Text.ofString "result", .arr (links.map fun l => Link.record (make l)))] := by
    intro make
    rw [Link.listRecord, List.map_map]
    rfl
  refine ⟨?_, ?_, ?_⟩
  · -- Every record is in ASCII, so the list and the object around them are.
    rw [Link.save, hrecord]
    apply Json.isAscii_render_obj hl
    intro field hfield depth
    rw [List.mem_singleton.1 hfield]
    apply Json.isAscii_render_arr hl
    intro j hj depth
    obtain ⟨l, _, rfl⟩ := List.mem_map.1 hj
    exact l.isAscii_record hl depth
  · -- Every record is read as the reloaded one, and the reader takes the whole archive.
    have hitems : Json.Reads .indented (.arr (links.map fun l => Link.record l.link))
        (.ok (.arr (links.map fun l => Link.record l.reloaded.link))) := by
      apply Json.reads_arr_ok hl
      rw [List.forall₂_map_left_iff, List.forall₂_map_right_iff, List.forall₂_same]
      exact fun l _ => l.reads_record hl
    have hfields : List.Forall₂
        (fun field k => Json.Reads .indented field.2 (.ok k.2) ∧ k.1 = field.1.joined)
        [(Text.ofString "result", .arr (links.map fun l => Link.record l.link))]
        [(Text.ofString "result", .arr (links.map fun l => Link.record l.reloaded.link))] :=
      .cons ⟨hitems, (Text.joined_ofString "result").symm⟩ .nil
    have hread := Json.read_render (Json.reads_obj_ok hl hfields (List.nodup_singleton _))
    rw [Link.load, Link.save, hrecord, hread]
    exact TextLink.mapM_ofRecord links
  · -- Every reloaded record has the document of the first one.
    have hitems : Json.SameDocument .indented
        (.arr (links.map fun l => Link.record l.reloaded.link))
        (.arr (links.map fun l => Link.record l.link)) := by
      apply Json.sameDocument_arr
      rw [List.forall₂_map_left_iff, List.forall₂_map_right_iff, List.forall₂_same]
      exact fun l _ => l.sameDocument_record
    have hfields : List.Forall₂
        (fun f g : Text × Json => f.1 = g.1 ∧ Json.SameDocument .indented f.2 g.2)
        [(Text.ofString "result", .arr (links.map fun l => Link.record l.reloaded.link))]
        [(Text.ofString "result", .arr (links.map fun l => Link.record l.link))] :=
      .cons ⟨rfl, hitems⟩ .nil
    rw [Link.save, Link.save, hrecord, hrecord]
    exact Json.sameDocument_obj hfields 0

end ModuleLinks

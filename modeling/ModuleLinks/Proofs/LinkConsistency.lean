/-
Links whose origin agrees with their source.

A link that was classified should still show why: an internal link has a
relative source, an external one has not, and a link whose target is computed
has no origin. This is so when a survey finds the link, since it has no origin
then. Normalization classifies it by its source and may write the source anew,
but what it writes for an internal link is relative again. An archive joins the
halves of pairs in a source, and that changes neither answer.

Main statements: `isConsistent_of_survey`, `isConsistent_of_normalize` and
`ComesBackAs.isConsistent`.
-/
import ModuleLinks.Proofs.ArchiveReading
import ModuleLinks.Proofs.FoundLinks
import ModuleLinks.Proofs.NormalizationCases

set_option autoImplicit false

namespace ModuleLinks

/-! ## Joining halves in a source -/

namespace Text

/-- **A text without halves and without what halves make.** -/
def IsPlain (t : Text) : Prop := ∀ c ∈ t, c.val < 0xD800

theorem not_isHighSurrogate {c : CodePoint} (h : c.val < 0xD800) : c.isHighSurrogate = false := by
  rw [Bool.eq_false_iff, ne_eq, CodePoint.isHighSurrogate_iff]
  omega

/-- In front of a text, a plain one stays as it is. -/
theorem joined_append {p : Text} (hp : IsPlain p) (t : Text) : joined (p ++ t) = p ++ joined t := by
  induction p with
  | nil => rfl
  | cons c p ih =>
    have hc := not_isHighSurrogate (hp c List.mem_cons_self)
    rw [List.cons_append, joined_cons _ _ (by simp [hc]),
      ih fun d hd => hp d (List.mem_cons_of_mem c hd), List.cons_append]

/-- **Joining puts nothing plain in front** of a text. -/
theorem prefix_joined_iff {p : Text} (hp : IsPlain p) (t : Text) : p <+: joined t ↔ p <+: t := by
  constructor
  · intro h
    induction p generalizing t with
    | nil => exact List.nil_prefix
    | cons c p ih =>
      have hc : c.val < 0xD800 := hp c List.mem_cons_self
      have hrest : IsPlain p := fun d hd => hp d (List.mem_cons_of_mem c hd)
      fun_cases joined t with
      | case1 => exact h
      | case2 d => exact h
      | case3 d e rest hpair =>
        -- What a pair makes is not plain.
        rw [joined, if_pos hpair, List.cons_prefix_cons] at h
        rw [Bool.and_eq_true, CodePoint.isHighSurrogate_iff] at hpair
        have hval : (CodePoint.ofHalves d e).val
            = min (0x10000 + (d.val - 0xD800) * 0x400 + (e.val - 0xDC00)) 0x10FFFF := rfl
        rw [← h.1] at hval
        omega
      | case4 d e rest hpair =>
        rw [joined, if_neg hpair, List.cons_prefix_cons] at h
        rw [List.cons_prefix_cons]
        exact ⟨h.1, ih hrest _ h.2⟩
  · rintro ⟨rest, rfl⟩
    rw [joined_append hp]
    exact List.prefix_append _ _

/-- Joining halves leaves at least one character. -/
theorem joined_ne_nil {t : Text} (h : t ≠ []) : joined t ≠ [] := by
  intro hnil
  have hempty := TextLink.isEmpty_joined t
  rw [hnil] at hempty
  exact h (List.isEmpty_iff.1 hempty.symm)

/-- Joining makes no plain text out of another one. -/
theorem joined_eq_iff {p : Text} (hp : IsPlain p) (t : Text) : joined t = p ↔ t = p := by
  constructor
  · intro h
    obtain ⟨rest, rfl⟩ := (prefix_joined_iff hp t).1 ⟨[], by rw [h, List.append_nil]⟩
    rw [joined_append hp] at h
    have hrest : joined rest = [] := List.append_right_eq_self.1 h
    by_cases hnil : rest = []
    · rw [hnil, List.append_nil]
    · exact absurd hrest (joined_ne_nil hnil)
  · rintro rfl
    have h := joined_append hp []
    rwa [List.append_nil, joined, List.append_nil] at h

/-- A plain word is a text exactly if it is the joined text: there are no halves in it. -/
theorem is_joined (t : Text) {word : String} (h : IsPlain (ofString word)) :
    (joined t).is word = t.is word := by
  rw [Bool.eq_iff_iff, is_iff, is_iff]
  exact joined_eq_iff h t

theorem startsWith_joined (t : Text) {word : String} (h : IsPlain (ofString word)) :
    (joined t).startsWith word = t.startsWith word := by
  rw [Bool.eq_iff_iff, startsWith_iff, startsWith_iff]
  exact prefix_joined_iff h t

instance (t : Text) : Decidable (IsPlain t) :=
  decidable_of_iff (t.all (fun c => decide (c.val < 0xD800)) = true) (by simp [IsPlain])

end Text

/-- **Joining keeps a source relative**, or not. -/
theorem Path.isRelative_joined (t : Text) : isRelative t.joined = isRelative t := by
  simp only [isRelative, Text.isOneOf, List.any_cons, List.any_nil]
  rw [Text.is_joined t (by decide), Text.is_joined t (by decide),
    Text.startsWith_joined t (by decide), Text.startsWith_joined t (by decide)]

/-! ## Links -/

namespace Link

/-- **A link whose origin agrees with its source**, which is a text. -/
structure IsConsistent (link : Link) : Prop where
  specifiers_ne_nil : link.specifiers ≠ []
  exists_source : ∃ t, t ≠ [] ∧ link.source = .str t
  internal : link.origin = some .internal → link.source.isRelativeSource = .ok true
  external : link.origin = some .external →
    link.source.isRelativeSource = .ok false ∧ link.isComputed = false
  computed : link.isComputed = true → link.origin = none

/-- **A link that was found is consistent**: without an origin it has nothing to agree with. -/
theorem IsFound.isConsistent {link : Link} (h : link.IsFound) : link.IsConsistent where
  specifiers_ne_nil := h.specifiers_ne_nil
  exists_source := h.exists_source
  internal hinternal := by
    rw [h.origin] at hinternal
    cases hinternal
  external hexternal := by
    rw [h.origin] at hexternal
    cases hexternal
  computed _ := h.origin

end Link

/-- **Every link that a survey finds is consistent.** -/
theorem Dialect.isConsistent_of_survey {ν : Type} {d : Dialect ν} {file : Json}
    {subject : Subject} {links : List Link} (h : (d.survey file subject).outcome = .ok links) :
    ∀ link ∈ links, link.IsConsistent :=
  fun link hlink => (isFound_of_survey h link hlink).isConsistent

/-! ## Links that were normalized -/

namespace Link

variable {fs : FileSystem} {importer root : Json} {link result : Link}

/-- No relative source is the mark for one that is computed. -/
theorem isText_of_isRelative {c : Text} (h : Path.isRelative c = true) :
    (Json.str c).isText "[variable]" = false := by
  rw [Bool.eq_false_iff]
  intro hmark
  rw [(Text.is_iff _ _).1 hmark] at h
  revert h
  decide

/-- A link with a relative source and tags is consistent as an internal one. -/
theorem isConsistent_of_isRelative {c : Text} (hc : Path.isRelative c = true)
    (htags : link.specifiers ≠ []) :
    IsConsistent { link with source := .str c, origin := some .internal } where
  specifiers_ne_nil := htags
  exists_source := by
    refine ⟨c, ?_, rfl⟩
    rintro rfl
    cases hc
  internal _ := congrArg Except.ok hc
  external := nofun
  computed h := by
    rw [isComputed, isText_of_isRelative hc] at h
    cases h

/-- A consistent link whose source is neither relative nor computed is consistent as an external
one. -/
theorem IsConsistent.of_external (hlink : link.IsConsistent)
    (hsource : link.source.isRelativeSource = .ok false) (hmark : link.isComputed = false) :
    IsConsistent { link with origin := some .external } where
  specifiers_ne_nil := hlink.specifiers_ne_nil
  exists_source := hlink.exists_source
  internal := nofun
  external _ := ⟨hsource, hmark⟩
  computed h := by cases hmark.symm.trans h

/-- **Normalization keeps a link consistent**, and leaves it without an origin only if its
target is computed. -/
theorem isConsistent_of_normalize (hlink : link.IsConsistent)
    (h : (normalize fs importer root link).outcome = .ok result) :
    result.IsConsistent ∧ (result.origin = none ↔ result.isComputed = true) := by
  rcases result_cases h with ⟨hsettled, rfl⟩ | ⟨hopen, hsource, rfl⟩ | ⟨_, _, c, hc, rfl⟩
  · refine ⟨hlink, ?_, hlink.computed⟩
    intro hnone
    simpa [isSettled, hnone] using hsettled
  · have hmark := (isSettled_eq_false.1 hopen).2
    exact ⟨hlink.of_external hsource hmark,
      iff_of_false (Option.some_ne_none _) (Bool.eq_false_iff.1 hmark)⟩
  · exact ⟨isConsistent_of_isRelative hc hlink.specifiers_ne_nil,
      iff_of_false (Option.some_ne_none _) (Bool.eq_false_iff.1 (isText_of_isRelative hc))⟩

/-- **Normalizing several links** keeps them consistent, and leaves those without an origin
whose targets are computed. -/
theorem isConsistent_of_normalizeAll {links results : List Link}
    (hlinks : ∀ link ∈ links, link.IsConsistent)
    (h : (normalizeAll fs importer root links).outcome = .ok results) :
    ∀ result ∈ results,
      result.IsConsistent ∧ (result.origin = none ↔ result.isComputed = true) := by
  rw [normalizeAll, Logged.outcome_mapM, Outcome.mapM_eq_ok] at h
  exact Outcome.forall_mem_of_forall₂ h fun link hlink result hnormal =>
    isConsistent_of_normalize (hlinks link hlink) hnormal

/-- Where only computed targets lack an origin, leaving out the internal links leaves out the
relative sources. -/
theorem isRelativeSource_of_withoutInternal {links : List Link}
    (hlinks : ∀ link ∈ links, link.IsConsistent ∧ (link.origin = none ↔ link.isComputed = true)) :
    ∀ link ∈ withoutInternal links, link.source.isRelativeSource = .ok false := by
  intro link hlink
  obtain ⟨hmem, hkept⟩ := List.mem_filter.1 hlink
  obtain ⟨hconsistent, hcomputed⟩ := hlinks link hmem
  rcases horigin : link.origin with _ | _ | _
  · -- The mark for a computed target is no relative source.
    obtain ⟨t, -, hsource⟩ := hconsistent.exists_source
    have hmark := hcomputed.1 horigin
    rw [isComputed, hsource] at hmark
    rw [hsource, (Text.is_iff _ _).1 hmark]
    rfl
  · rw [horigin] at hkept
    simp at hkept
  · exact (hconsistent.external horigin).1

/-! ## Links that were loaded -/

/-- **What a consistent link comes back as is consistent.** -/
theorem ComesBackAs.isConsistent {back : Link} (h : link.ComesBackAs back)
    (hlink : link.IsConsistent) : back.IsConsistent := by
  obtain ⟨t, ht, hsource⟩ := hlink.exists_source
  have hback : back.source = .str (Text.joined t) := by
    have hread := h.source
    rw [hsource] at hread
    exact Except.ok.inj (hread.unique (Json.reads_str .indented t))
  have hrelative : back.source.isRelativeSource = link.source.isRelativeSource := by
    rw [hback, hsource]
    exact congrArg Except.ok (Path.isRelative_joined t)
  have hcomputed : back.isComputed = link.isComputed := by
    rw [isComputed, isComputed, hback, hsource]
    exact Text.is_joined t (by decide)
  refine ⟨?_, ⟨Text.joined t, Text.joined_ne_nil ht, hback⟩, ?_, ?_, ?_⟩
  · intro hnil
    have hlength := h.specifiers.length_eq
    rw [hnil] at hlength
    exact hlink.specifiers_ne_nil (List.length_eq_zero_iff.1 hlength)
  · rw [h.origin, hrelative]
    exact hlink.internal
  · rw [h.origin, hrelative, hcomputed]
    exact hlink.external
  · rw [h.origin, hcomputed]
    exact hlink.computed

/-- **Loading the archive of consistent links** gives consistent links. -/
theorem isConsistent_of_load_save {links results : List Link}
    (hlinks : ∀ link ∈ links, link.IsConsistent) (h : load (save links) = .ok results) :
    ∀ result ∈ results, result.IsConsistent := by
  -- An archive that cannot be loaded brings nothing back.
  rcases load_save_cases links with hfail | ⟨back, hback, hcomes⟩
  · rw [hfail] at h
    cases h
  · rw [hback] at h
    obtain rfl := Except.ok.inj h
    exact Outcome.forall_mem_of_forall₂ hcomes fun link hlink result hcome =>
      hcome.isConsistent (hlinks link hlink)

end Link

end ModuleLinks

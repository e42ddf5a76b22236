/-
The ways through the normalization of a link.

There are five of them. A link in its final form stays as it is. A source that is not relative is
external, and without a root a relative one is internal as it stands. With a root a relative source
is written anew, either for the file that was found or, with a warning, for the path at which none
was. Only the last way logs anything.

Whatever is said of normalization later on is said of each way in turn.

Main statement: `normalizes_of_normalize`.
-/
import ModuleLinks.Normalization
import ModuleLinks.Proofs.CanonicalSource

set_option autoImplicit false

namespace ModuleLinks

/-! ## Sources that are asked -/

/-- Only a text can be asked whether it is relative. -/
theorem Json.isRelativeSource_eq_ok {j : Json} {b : Bool} :
    j.isRelativeSource = .ok b ↔ ∃ t, j = .str t ∧ Path.isRelative t = b := by
  constructor
  · intro h
    cases j with
    | str t => exact ⟨t, rfl, Except.ok.inj h⟩
    | _ => cases h
  · rintro ⟨t, rfl, rfl⟩
    rfl

namespace FileSystem

theorem pathText_cases (j : Json) : j.pathText = .error .notAPath ∨ ∃ t, j = .str t := by
  rcases j with _ | _ | _ | _ | t | _ | _
  · exact .inl rfl
  · exact .inl rfl
  · exact .inl rfl
  · exact .inl rfl
  · exact .inr ⟨t, rfl⟩
  · exact .inl rfl
  · exact .inl rfl

/-- Only texts are resolved. -/
theorem resolve_eq_notAPath_or (fs : FileSystem) (source importer root : Json) :
    fs.resolve source importer root = .error .notAPath
      ∨ ∃ s m r : Text, source = .str s ∧ importer = .str m ∧ root = .str r := by
  rcases pathText_cases root with hroot | ⟨r, rfl⟩
  · refine .inl ?_
    rw [resolve, hroot]
    rfl
  rcases pathText_cases importer with himporter | ⟨m, rfl⟩
  · refine .inl ?_
    rw [resolve, himporter]
    rfl
  rcases pathText_cases source with hsource | ⟨s, rfl⟩
  · refine .inl ?_
    rw [resolve, hsource]
    rfl
  · exact .inr ⟨s, m, r, rfl, rfl, rfl⟩

end FileSystem

/-! ## The ways -/

namespace Link

variable {fs : FileSystem} {importer root : Json} {link result : Link} {log : List LogRecord}

/-- A link is open if it is neither classified nor computed. -/
theorem isSettled_eq_false :
    link.isSettled = false ↔ link.origin = none ∧ link.isComputed = false := by
  rw [isSettled, Bool.or_eq_false_iff, Option.isSome_eq_false_iff, Option.isNone_iff_eq_none]

/-- **What normalization makes of a link, and what it logs**, where it succeeds: a case for each
way through it. -/
inductive Normalizes (fs : FileSystem) (importer root : Json) (link : Link) :
    List LogRecord → Link → Prop where
  | settled (hsettled : link.isSettled = true) : Normalizes fs importer root link [] link
  | external (hopen : link.isSettled = false)
      (hsource : link.source.isRelativeSource = .ok false) :
      Normalizes fs importer root link [] { link with origin := some .external }
  | internal (hopen : link.isSettled = false) (hsource : link.source.isRelativeSource = .ok true)
      (hroot : root.isNull = true) :
      Normalizes fs importer root link [] { link with origin := some .internal }
  | found {source m r : Text} {path : Path} (hopen : link.isSettled = false)
      (hsource : link.source = .str source) (hrelative : Path.isRelative source = true)
      (himporter : importer = .str m) (hroot : root = .str r)
      (hsearch : fs.search source m r = .ok (some path)) :
      Normalizes fs importer root link []
        { link with source := .str (Path.relativeTo (fs.rootPath r) path),
                    origin := some .internal }
  | lost {source m r kept : Text} (hopen : link.isSettled = false)
      (hsource : link.source = .str source) (hrelative : Path.isRelative source = true)
      (himporter : importer = .str m) (hroot : root = .str r)
      (hsearch : fs.search source m r = .ok none)
      (hkept : kept = Path.relativeTo (fs.rootPath r)
        (FileSystem.targetOf (fs.rootPath r) m source)) :
      Normalizes fs importer root link
        [⟨.warning, (Failure.unresolvedSource (.str source) (.str m) (.str kept)).message⟩]
        { link with source := .str kept, origin := some .internal }

/-- An open link with a relative source is put where it is located. -/
theorem normalizes_of_located {source : Text} (hopen : link.isSettled = false)
    (hsource : link.source = .str source) (hrelative : Path.isRelative source = true)
    (h : (link.located fs importer root).outcome = .ok result) :
    Normalizes fs importer root link (link.located fs importer root).log result := by
  unfold located at h ⊢
  rw [hsource] at h ⊢
  -- A search comes to an end only for texts, and its end is one of two.
  rcases fs.resolve_eq_notAPath_or (.str source) importer root with
    herror | ⟨s, m, r, hs, rfl, rfl⟩
  · rw [herror] at h
    cases h
  obtain rfl := Json.str.inj hs
  split at h
  · next c hc =>
    obtain ⟨path, hsearch, rfl⟩ := FileSystem.resolve_eq_ok.1 hc
    obtain rfl := Except.ok.inj h
    exact .found hopen hsource hrelative rfl rfl hsearch
  · next a b kept hkept =>
    obtain ⟨hsearch, rfl, rfl, rfl⟩ := FileSystem.resolve_eq_unresolved.1 hkept
    obtain rfl := Except.ok.inj h
    exact .lost hopen hsource hrelative rfl rfl hsearch rfl
  · cases h

/-- **There is no other way** through normalization. -/
theorem normalizes_of_normalize (h : (normalize fs importer root link).outcome = .ok result) :
    Normalizes fs importer root link (normalize fs importer root link).log result := by
  cases hopen : link.isSettled with
  | true =>
    have hsame : normalize fs importer root link = pure link := by
      rw [normalize, if_pos hopen]
    rw [hsame] at h ⊢
    obtain rfl := Except.ok.inj h
    exact .settled hopen
  | false =>
    rcases hasked : link.source.isRelativeSource with e | relative
    · rw [normalize, hopen, hasked] at h
      cases h
    cases relative with
    | false =>
      have hsame : normalize fs importer root link
          = pure { link with origin := some .external } := by
        rw [normalize, hopen, hasked]
        rfl
      rw [hsame] at h ⊢
      obtain rfl := Except.ok.inj h
      exact .external hopen hasked
    | true =>
      have hsame : normalize fs importer root link
          = if root.isNull then pure { link with origin := some .internal }
            else link.located fs importer root := by
        rw [normalize, hopen, hasked]
        rfl
      rw [hsame] at h ⊢
      -- Without a root there is nothing to be relative to, and no search.
      by_cases hroot : root.isNull = true
      · rw [if_pos hroot] at h ⊢
        obtain rfl := Except.ok.inj h
        exact .internal hopen hasked hroot
      · obtain ⟨source, hsource, hrelative⟩ := Json.isRelativeSource_eq_ok.1 hasked
        rw [if_neg hroot] at h ⊢
        exact normalizes_of_located hopen hsource hrelative h

/-! ## What comes of a link -/

/-- **The result on any way**: the link itself if it was in its final form, and otherwise the link as
an external one, or as an internal one with a relative source. -/
theorem result_cases (h : (normalize fs importer root link).outcome = .ok result) :
    (link.isSettled = true ∧ result = link)
      ∨ (link.isSettled = false ∧ link.source.isRelativeSource = .ok false
        ∧ result = { link with origin := some .external })
      ∨ (link.isSettled = false ∧ link.source.isRelativeSource = .ok true
        ∧ ∃ c, Path.isRelative c = true
          ∧ result = { link with source := .str c, origin := some .internal }) := by
  have hway := normalizes_of_normalize h
  -- The log goes with the way and is of no interest here.
  generalize (normalize fs importer root link).log = log at hway
  cases hway with
  | settled hsettled => exact .inl ⟨hsettled, rfl⟩
  | external hopen hsource => exact .inr (.inl ⟨hopen, hsource, rfl⟩)
  | internal hopen hasked =>
    obtain ⟨source, hsource, hrelative⟩ := Json.isRelativeSource_eq_ok.1 hasked
    exact .inr (.inr ⟨hopen, hasked, source, hrelative, by rw [hsource]⟩)
  | found hopen hsource hrelative =>
    have hasked := Json.isRelativeSource_eq_ok.2 ⟨_, hsource, hrelative⟩
    exact .inr (.inr ⟨hopen, hasked, _, Path.isRelative_relativeTo _ _, rfl⟩)
  | lost hopen hsource hrelative _ _ _ hkept =>
    have hasked := Json.isRelativeSource_eq_ok.2 ⟨_, hsource, hrelative⟩
    subst hkept
    exact .inr (.inr ⟨hopen, hasked, _, Path.isRelative_relativeTo _ _, rfl⟩)

/-- **What was normalized is in its final form.** -/
theorem isSettled_of_normalize (h : (normalize fs importer root link).outcome = .ok result) :
    result.isSettled = true := by
  rcases result_cases h with ⟨hsettled, rfl⟩ | ⟨_, _, rfl⟩ | ⟨_, _, _, _, rfl⟩
  · exact hsettled
  · rfl
  · rfl

end Link

end ModuleLinks

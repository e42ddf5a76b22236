/-
The analysis of a module: survey, normalization, and the choice of links.

Settings come from two sides, from the analysis itself and from the occasion on
which it is used. The occasion's overlay replaces the analysis's own one; they
are not combined. A subject may come with the name of its dialect, and is taken
for a tree of Oxc otherwise.
-/
import ModuleLinks.Normalization
import ModuleLinks.Settings
import ModuleLinks.Survey

set_option autoImplicit false

namespace ModuleLinks

/-- **What an analysis is set up with and asked to do.** -/
structure Analysis where
  /-- The overlay of the analysis itself. -/
  own : Overlay
  /-- The overlay of the occasion. -/
  occasion : Overlay
  /-- The name of the dialect, if the subject came with one. -/
  dialect? : Option Json
  /-- The path of the module. -/
  file : Json
  /-- The tree of the module. -/
  subject : Subject

namespace Analysis

/-- The settings of the analysis itself. -/
def ownSettings (a : Analysis) : Except Failure Settings := Settings.merged {} a.own

/-- **The settings that count.** A record of settings that comes with the occasion is taken as it
is. -/
def settings (a : Analysis) : Except Failure Settings :=
  match a.occasion with
  | .none => a.ownSettings
  | .record others | .extended others _ => .ok others
  | .mapping value => Settings.ofOverlay (.mapping value)

/-- The name of the dialect that counts. -/
def dialectName (a : Analysis) : Except Failure DialectName :=
  match a.dialect? with
  | some j => DialectName.ofJson j
  | none => .ok .oxc

/-- The links that the settings leave. -/
def chosen (settings : Settings) (links : List Link) : List Link :=
  if settings.keepInternal.isTrivial then Link.withoutInternal links else links

/-- **The links of the module.** -/
def run (a : Analysis) (fs : FileSystem) : Logged (List Link) := do
  let settings ← a.settings
  let name ← a.dialectName
  let found ← name.survey a.file a.subject
  let normal ← Link.normalizeAll fs a.file settings.projectRoot found
  return chosen settings normal

end Analysis

end ModuleLinks

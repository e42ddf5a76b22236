/-
Links: the places where a module refers to another one.

A link says what it binds, from where, under which assertion about the type of
the target, and, once that is known, whether the target lies inside the
project. What a link binds is a list of **tags**: the name of each binding, or
one of three marks in brackets for the default export, for the whole module,
and for a module that is only loaded.

The fields hold JSON values. A link that a survey finds has texts in them on
every well-formed tree, but a name in a tree need not be a text, and neither
need be a field of a link that was read back.
-/
import ModuleLinks.Json.Basic

set_option autoImplicit false

namespace ModuleLinks

/-- **Where the target of a link lies.** -/
inductive Origin where
  /-- In the project: the source is relative. -/
  | internal
  /-- Elsewhere: the source is the name of a package or an address. -/
  | external
deriving DecidableEq

namespace Origin

/-- The word for an origin. -/
def name : Origin → String
  | internal => "internal"
  | external => "external"

/-- The origin that a value names. -/
def ofJson? (j : Json) : Option Origin :=
  if j.isText internal.name then some internal
  else if j.isText external.name then some external
  else none

end Origin

/-- **A link.** -/
structure Link where
  /-- The tags, in the order of the declaration. -/
  specifiers : List Json
  source : Json
  /-- The type that the declaration asserts of the target; `null` for none. -/
  assertion : Json := .null
  /-- Where the target lies, once that is known. -/
  origin : Option Origin := none

namespace Link

/-- The tag of a binding to the default export. -/
def defaultTag : Json := Json.ofString "[default]"

/-- The tag of a binding to the whole module. -/
def namespaceTag : Json := Json.ofString "[*]"

/-- The tag of a link that binds nothing. -/
def fileTag : Json := Json.ofString "[file]"

/-- The source of a link whose target is computed when the module runs. -/
def computedSource : Json := Json.ofString "[variable]"

/-- The target of the link is computed when the module runs. -/
def isComputed (link : Link) : Bool := link.source.isText "[variable]"

end Link

end ModuleLinks

/-
Normalization: canonical sources and origins.

A link is **classified** by its source: a relative one is internal, any other
is external, and one whose target is computed stays as it is. Where the root of
the project is known, the source of an internal link becomes the root-relative
form of the file it names. If there is no such file, a warning is logged and
the root-relative form of the path stands in. A link that is classified already
is canonical and is left alone.
-/
import ModuleLinks.Link.Basic
import ModuleLinks.Logged
import ModuleLinks.Resolution

set_option autoImplicit false

namespace ModuleLinks

/-- The source is a relative one. A source that is no text cannot be asked. -/
def Json.isRelativeSource : Json → Except Failure Bool
  | .str t => .ok (Path.isRelative t)
  | _ => .error .sourceNotText

namespace Link

/-- The link is in its final form. -/
def isSettled (link : Link) : Bool := link.origin.isSome || link.isComputed

/-- An internal link, its source written for a project with the given root. -/
def located (fs : FileSystem) (importer root : Json) (link : Link) : Logged Link :=
  match fs.resolve link.source importer root with
  | .ok source => pure { link with source := .str source, origin := some .internal }
  | .error (.unresolvedSource source of kept) =>
    ⟨[⟨.warning, (Failure.unresolvedSource source of kept).message⟩],
      .ok { link with source := kept, origin := some .internal }⟩
  | .error e => ⟨[], .error e⟩

/-- **The normal form of a link** in the module `importer` of a project; the root is `null` if it is
not known. -/
def normalize (fs : FileSystem) (importer root : Json) (link : Link) : Logged Link := do
  if link.isSettled then return link
  if !(← link.source.isRelativeSource) then return { link with origin := some .external }
  if root.isNull then return { link with origin := some .internal }
  link.located fs importer root

/-- **The normal forms of several links**, one after the other. -/
def normalizeAll (fs : FileSystem) (importer root : Json) (links : List Link) :
    Logged (List Link) :=
  links.mapM (normalize fs importer root)

/-- **The links that lead out of the project**, or are not known to stay in it. -/
def withoutInternal (links : List Link) : List Link :=
  links.filter fun link => link.origin ≠ some .internal

end Link

end ModuleLinks

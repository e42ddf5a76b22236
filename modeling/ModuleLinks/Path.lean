/-
Paths of files.

A path here is absolute and normalized: the list of the names that lead from
the root directory to the file, none of them empty and none of them a dot or
two dots. Normalizing is textual. A double dot takes back the name before it,
whatever that name stands for on the disk, and at the root it takes back
nothing.

Written relative to a directory, a path inside it starts with a dot and a
slash; a path outside starts with as many double dots as lead up to the first
directory that contains both.
-/
import ModuleLinks.Text.Basic

set_option autoImplicit false

namespace ModuleLinks

/-- **An absolute path**, as the names from the root directory on. -/
abbrev Path := List Text

namespace Path

/-! ## Reading -/

/-- The name of the directory above. -/
def parentName : Text := Text.ofString ".."

/-- The pieces of a text between its slashes. -/
def pieces : Text → List Text
  | [] => [[]]
  | c :: rest =>
    if c.is '/' then [] :: pieces rest
    else match pieces rest with
      | [] => [[c]]
      | piece :: others => (c :: piece) :: others

/-- **The names in a text**: its pieces without the empty ones and the single dots. -/
def names (t : Text) : List Text :=
  (pieces t).filter fun piece => !(piece.isEmpty || piece.is ".")

/-- The text starts from the root directory. -/
def isAbsolute (t : Text) : Bool := t.startsWith "/"

/-- One step along a name. -/
def step (path : Path) (name : Text) : Path :=
  if name = parentName then path.dropLast else path ++ [name]

/-- The path to which names lead from a directory. -/
def walk (start : Path) (names : List Text) : Path := names.foldl step start

/-- **The path that a text spells** where `here` is the working directory. -/
def read (here : Path) (t : Text) : Path :=
  if isAbsolute t then walk [] (names t) else walk here (names t)

/-- The names of a text read in a directory, double dots left in. An absolute text does not depend
on the directory. -/
def append (directory : List Text) (t : Text) : List Text :=
  if isAbsolute t then names t else directory ++ names t

/-- The path of a file with something added to its last name. -/
def addSuffix (path : Path) (suffix : String) : Path :=
  path.dropLast ++ [path.getLast?.getD [] ++ Text.ofString suffix]

/-! ## Writing -/

/-- Names with slashes between them. -/
def spelled : List Text → Text
  | [] => []
  | [name] => name
  | name :: next :: rest => name ++ Text.ofString "/" ++ spelled (next :: rest)

/-- **A path written from the root directory.** -/
def written (path : Path) : Text := Text.ofString "/" ++ spelled path

/-- Two paths without the names that they have in common at their start. -/
def apart : Path → Path → Path × Path
  | a :: as, b :: bs => if a = b then apart as bs else (a :: as, b :: bs)
  | as, bs => (as, bs)

/-- **A path written relative to a directory.** -/
def relativeTo (directory path : Path) : Text :=
  match apart directory path with
  | ([], inside) => Text.ofString "./" ++ spelled inside
  | (up, down) => spelled (up.map (fun _ => parentName) ++ down)

/-- **A relative source**: a text that starts from the directory of the module or one above it. -/
def isRelative (t : Text) : Bool :=
  t.isOneOf [".", ".."] || t.startsWith "./" || t.startsWith "../"

end Path

end ModuleLinks

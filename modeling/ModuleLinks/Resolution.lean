/-
Resolution: the file that a relative source names.

A relative source is read in the directory of the importing module. It names
the file at that path if there is one, else the file whose name goes on with
one of a list of extensions, the first in the list winning, else, if the path
is a directory, its index file, by the same list. The answer is written
relative to the root of the project; where there is no file the report keeps
the path that was looked for, written the same way.

Paths arrive as JSON values, and what is no text is no path.
-/
import ModuleLinks.FileSystem

set_option autoImplicit false

namespace ModuleLinks

/-- The text of a value that has to be a path. -/
def Json.pathText : Json → Except Failure Text
  | .str t => .ok t
  | _ => .error .notAPath

namespace FileSystem

/-- The extensions that are tried, in order. -/
def extensions : List String := [".js", ".mjs", ".cjs", ".jsx", ".ts", ".tsx", ".json"]

/-- **The file that a path stands for.** -/
def probe (fs : FileSystem) (target : Path) : Except Failure (Option Path) := do
  match ← fs.firstFile (target :: extensions.map target.addSuffix) with
  | some path => return some path
  | none =>
    if ← fs.hasDirectory target then
      fs.firstFile (extensions.map fun extension =>
        target ++ [Text.ofString "index" ++ Text.ofString extension])
    else return none

/-- The path that a relative source in a module stands for before any file is looked for. -/
def targetOf (root : Path) (importer source : Text) : Path :=
  Path.walk [] (Path.append (Path.append root importer).dropLast source)

/-- **The root-relative form of the file that a source names** in a module of a project. -/
def resolve (fs : FileSystem) (source importer root : Json) : Except Failure Text := do
  let rootPath := Path.read fs.workingDirectory (← root.pathText)
  let importerText ← importer.pathText
  let sourceText ← source.pathText
  let target := targetOf rootPath importerText sourceText
  match ← fs.probe target with
  | some path => return Path.relativeTo rootPath path
  | none =>
    throw (.unresolvedSource (.str sourceText) (.str importerText)
      (.str (Path.relativeTo rootPath target)))

/-- **The root-relative form of a path**, whether or not there is a file. The working directory
stands in for a root that is not given. -/
def rootRelative (fs : FileSystem) (path root : Json) : Except Failure Text := do
  if path.isTrivial then throw .emptyPath
  let pathText ← path.pathText
  let rootText ← if root.isNull then pure [] else root.pathText
  return Path.relativeTo (Path.read fs.workingDirectory rootText)
    (Path.read fs.workingDirectory pathText)

end FileSystem

end ModuleLinks

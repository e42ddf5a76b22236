/-
File systems, as far as looking up names goes.

A file system says of each path whether there is a file or a directory, and it
knows the working directory. **Looking a path up** goes through the directories
on the way. A path that leaves the directories leads nowhere; so does one with
a name that no file can have.

Two lengths are limited. A name of more than 255 bytes is an error, but only
where the directory it would stand in exists, since the directory is what
refuses it. A whole path may be limited too, and one that is too long is
refused before the first directory is looked into.

Nothing else stands in the way of a look: **every directory can be searched**. A
file system that refuses to look into some of its directories is not one of these.
-/
import ModuleLinks.Failure
import ModuleLinks.Path
import ModuleLinks.Text.Utf8

set_option autoImplicit false

namespace ModuleLinks

/-- **What stands at a path.** -/
inductive Entry where
  | file
  | directory
deriving DecidableEq

/-- **A file system**, all of whose directories can be searched. -/
structure FileSystem where
  entry : Path → Option Entry
  /-- The directory from which relative texts are read. -/
  workingDirectory : Path
  /-- The longest path in bytes, if the length of a path is limited. -/
  pathLimit : Option Nat

namespace FileSystem

/-! ## Looking up -/

/-- The longest name in bytes. -/
def nameLimit : Nat := 255

/-- A name that no file can have: it holds the null character, or a surrogate that does not stand
for a byte. -/
def isImpossible (name : Text) : Bool :=
  name.any fun c => c.val == 0 || c.isSurrogate && !Utf8.isLoneByte c

/-- What stands at the end of a way that goes on by `names` from the path `before`. -/
def follow (fs : FileSystem) (before : Path) : List Text → Except Failure (Option Entry)
  | [] => .ok (fs.entry before)
  | name :: rest =>
    if fs.entry before ≠ some .directory then .ok none
    else if nameLimit < Utf8.byteLength name then .error .nameTooLong
    else fs.follow (before ++ [name]) rest

/-- The path is over the limit. -/
def isTooLong (fs : FileSystem) (path : Path) : Bool :=
  match fs.pathLimit with
  | some limit => limit < Utf8.byteLength path.written
  | none => false

/-- **What a look at a path finds.** -/
def look (fs : FileSystem) (path : Path) : Except Failure (Option Entry) :=
  if path.any isImpossible then .ok none
  else if fs.isTooLong path then .error .nameTooLong
  else fs.follow [] path

/-- A look at the path finds a file. -/
def hasFile (fs : FileSystem) (path : Path) : Except Failure Bool :=
  (fs.look path).map (· == some .file)

/-- A look at the path finds a directory. -/
def hasDirectory (fs : FileSystem) (path : Path) : Except Failure Bool :=
  (fs.look path).map (· == some .directory)

/-- **The first file** among several paths, looked at in order. -/
def firstFile (fs : FileSystem) : List Path → Except Failure (Option Path)
  | [] => .ok none
  | path :: rest => do if ← fs.hasFile path then return some path else fs.firstFile rest

/-! ## Changing -/

/-- The longest path of a usual file system: 4096 bytes with the one that ends it. -/
def usualPathLimit : Nat := 4095

/-- A usual file system with nothing but the working directory and those above it. -/
def bare (workingDirectory : Path) : FileSystem where
  entry path := if path.isPrefixOf workingDirectory then some .directory else none
  workingDirectory := workingDirectory
  pathLimit := some usualPathLimit

/-- A directory at a path, with the directories above it. -/
def makeDirectory (fs : FileSystem) (path : Path) : FileSystem :=
  { fs with
    entry := fun p =>
      if p.isPrefixOf path && (fs.entry p).isNone then some .directory else fs.entry p }

/-- A file at a path, with the directories above it. -/
def writeFile (fs : FileSystem) (path : Path) : FileSystem :=
  { fs with
    entry := fun p =>
      if p = path then some .file else (fs.makeDirectory path.dropLast).entry p }

/-- Nothing at a path and below it. -/
def remove (fs : FileSystem) (path : Path) : FileSystem :=
  { fs with entry := fun p => if path.isPrefixOf p then none else fs.entry p }

end FileSystem

end ModuleLinks

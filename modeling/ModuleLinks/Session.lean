/-
Sessions: a list of links that is worked on step by step.

A session holds a list of links, the archive that was saved last, and a file
system that may change between two steps. Each step answers something and logs
what it has to say. A step that fails leaves the session as it was.
-/
import ModuleLinks.Link.Archive
import ModuleLinks.Normalization
import ModuleLinks.Survey

set_option autoImplicit false

namespace ModuleLinks

/-- **The state of a session.** -/
structure Session where
  /-- The files around the project. -/
  files : FileSystem
  links : List Link := []
  /-- The document that was saved last. -/
  archive : List Char := []

namespace Session

/-- **A step of a session.** -/
inductive Step where
  | writeFile (path : Path)
  | makeDirectory (path : Path)
  | remove (path : Path)
  /-- Other links take the place of the current ones. -/
  | replace (links : List Link)
  | append (links : List Link)
  /-- The links of a tree in the dialect of a name are added at the end. -/
  | survey (dialect file : Json) (subject : Subject)
  | normalize (file root : Json)
  /-- Internal links are left out. -/
  | leaveInternal
  | save
  /-- The links of a document, or of the archive, take the place of the current ones. -/
  | load (document : Option Text)
  | toRecord
  /-- The links of a record take the place of the current ones. -/
  | ofRecord (record : Json)

/-- **What a step answers.** -/
inductive Answer where
  | done
  | document (text : List Char)
  | record (j : Json)

/-- The characters of a document that is to be written to a file. -/
def writable (t : Text) : Except Failure (List Char) :=
  match t.toChars? with
  | some document => .ok document
  | none => .error .unencodable

/-- The document that is to be loaded: the given one, or else the archive. -/
def toLoad (s : Session) : Option Text → Except Failure (List Char)
  | some t => writable t
  | none => .ok s.archive

/-- **The effect of a step**: the state after it and its answer, or a failure. -/
def attempt (s : Session) : Step → Logged (Session × Answer)
  | .writeFile path => pure ({ s with files := s.files.writeFile path }, .done)
  | .makeDirectory path => pure ({ s with files := s.files.makeDirectory path }, .done)
  | .remove path => pure ({ s with files := s.files.remove path }, .done)
  | .replace links => pure ({ s with links }, .done)
  | .append links => pure ({ s with links := s.links ++ links }, .done)
  | .survey dialect file subject => do
    let name ← DialectName.ofJson dialect
    let found ← name.survey file subject
    return ({ s with links := s.links ++ found }, .done)
  | .normalize file root => do
    let links ← Link.normalizeAll s.files file root s.links
    return ({ s with links }, .done)
  | .leaveInternal => pure ({ s with links := Link.withoutInternal s.links }, .done)
  | .save =>
    let document := Link.save s.links
    pure ({ s with archive := document }, .document document)
  | .load document => do
    let text ← s.toLoad document
    let links ← Link.load text
    return ({ s with links }, .done)
  | .toRecord => pure (s, .record (Link.listRecord s.links))
  | .ofRecord j => do
    let links ← Link.listOfRecord j
    return ({ s with links }, .done)

/-- **A step**: the state after it, and what it answered and logged. -/
def perform (s : Session) (step : Step) : Session × Logged Answer :=
  let effect := s.attempt step
  match effect.outcome with
  | .ok (after, answer) => (after, ⟨effect.log, .ok answer⟩)
  | .error e => (s, ⟨effect.log, .error e⟩)

end Session

end ModuleLinks

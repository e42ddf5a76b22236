/-
Archives: lists of links as JSON documents.

An archive is written indented and in pure ASCII, and it is read with the
library's own reader, so whatever text a link holds comes back.
-/
import ModuleLinks.Json.Printer
import ModuleLinks.Json.Reader
import ModuleLinks.Link.Record

set_option autoImplicit false

namespace ModuleLinks.Link

/-- **Writing an archive.** -/
def save (links : List Link) : List Char := (listRecord links).render .indented 0

/-- The failure of a document that was refused. -/
def failureOf : Json.ReadFault → Failure
  | .malformed => .notJson
  | .integerTooLong => .integerTooLong

/-- **Reading an archive.** -/
def load (document : List Char) : Except Failure (List Link) :=
  match Json.read document with
  | .ok j => listOfRecord j
  | .error fault => .error (failureOf fault)

end ModuleLinks.Link

/-
What can go wrong, as causes.

Four causes are **reports** and carry a message: a tree or dialect that is not
supported, a declaration that makes no link, a source that names no file, and a
general report. The others say what was wrong with a value that came from
outside; they carry no message.

The details of a report are JSON values, not texts, since a report can be made
about anything: a dialect that is a number, a node without a type.
-/
import ModuleLinks.Json.Literal

set_option autoImplicit false

namespace ModuleLinks

/-- **A cause of failure.** -/
inductive Failure where
  /-- A report on nothing in particular. -/
  | general (details : List Json)
  /-- No such dialect, or a tree that is not one of the dialect. -/
  | unsupportedDialect (dialect reason : Json)
  /-- A declaration from which no link can be made. -/
  | malformedDeclaration (nodeType reason : Json)
  /-- A relative source for which there is no file, and the source that is kept for it. -/
  | unresolvedSource (source importer kept : Json)
  /-- A report has other details than its kind takes. -/
  | detailsMismatch
  /-- A question about a node was put to a value that is none. -/
  | notANode
  /-- The members of a value that has none were to be visited one by one. -/
  | notEnumerable
  /-- The first member was asked of a value that has no members. -/
  | notIndexable
  /-- The first member was asked of an object, whose members have keys and no positions. -/
  | notOrdered
  | notANumber
  /-- No code point has this number. -/
  | noCodePoint
  | outOfRange
  | notUtf8
  /-- A text cannot be written as UTF-8. -/
  | unencodable
  | notJson
  /-- A document holds an integer of too many digits. -/
  | integerTooLong
  /-- A value is no record of a list of links. -/
  | notAListRecord
  | notALinkRecord
  | missingField (key : String)
  | unknownOrigin
  | sourceNotText
  | notAPath
  | emptyPath
  /-- A name or a path is longer than the file system takes. -/
  | nameTooLong
  | notAMapping
  | notSettings
  | unknownSetting (key : Text)

namespace Failure

/-- The details of a general report in one text: nothing for none, the detail itself for one, and
all in parentheses for several. -/
def summary : List Json → Text
  | [] => []
  | [j] => j.shown
  | details => Text.ofString "(" ++ Json.literalItems details ++ Text.ofString ")"

/-- **The message** of a report. -/
def message? : Failure → Option Text
  | general details => some (summary details)
  | unsupportedDialect dialect reason =>
    some (Text.ofString "Unsupported AST dialect: " ++ dialect.literal ++
      if reason.isTrivial then []
      else Text.ofString " (" ++ reason.shown ++ Text.ofString ")")
  | malformedDeclaration nodeType reason =>
    some (Text.ofString "Malformed " ++ (nodeType.orElse (Json.ofString "node")).shown
      ++ Text.ofString ": " ++ reason.shown)
  | unresolvedSource source importer kept =>
    some (Text.ofString "Could not resolve " ++ source.literal ++ Text.ofString " imported from "
      ++ importer.literal ++ Text.ofString "; keeping " ++ kept.literal)
  | _ => none

/-- The message of a report, and nothing for any other failure. -/
def message (e : Failure) : Text := e.message?.getD []

/-- The kinds of report. -/
inductive ReportKind where
  | general
  | unsupportedDialect
  | malformedDeclaration
  | unresolvedSource
deriving DecidableEq

/-- **The report of a kind with the given details**, in the order of the message. The reason of an
unsupported dialect may be left out; otherwise the number of details must fit the kind. -/
def report : ReportKind → List Json → Except Failure Failure
  | .general, details => .ok (general details)
  | .unsupportedDialect, [dialect] => .ok (unsupportedDialect dialect .null)
  | .unsupportedDialect, [dialect, reason] => .ok (unsupportedDialect dialect reason)
  | .malformedDeclaration, [nodeType, reason] => .ok (malformedDeclaration nodeType reason)
  | .unresolvedSource, [source, importer, kept] => .ok (unresolvedSource source importer kept)
  | _, _ => .error detailsMismatch

end Failure

end ModuleLinks

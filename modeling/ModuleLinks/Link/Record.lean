/-
Links as JSON records.

A record leaves out an assertion that says nothing and an origin that is not
known. Reading a record is strict about the fields it needs and about the
origin, and takes the values of all others as they are; what it needs first it
misses first.
-/
import ModuleLinks.Failure
import ModuleLinks.Link.Basic

set_option autoImplicit false

namespace ModuleLinks

/-- The value of a field that has to be there. -/
def Json.required (j : Json) (key : String) : Except Failure Json :=
  match j.field? key with
  | some value => .ok value
  | none => .error (.missingField key)

/-- What a loop over a value visits, or the failure of the loop. -/
def Json.elements (j : Json) : Except Failure (List Json) :=
  match j.elements? with
  | some members => .ok members
  | none => .error .notEnumerable

namespace Link

/-- **The record of a link.** -/
def record (link : Link) : Json :=
  .obj <|
    [(Text.ofString "importSpecifiers", .arr link.specifiers),
      (Text.ofString "source", link.source)]
    ++ (if link.assertion.isTrivial then []
        else [(Text.ofString "assertionType", link.assertion)])
    ++ match link.origin with
      | some origin => [(Text.ofString "classification", Json.ofString origin.name)]
      | none => []

/-- The origin in a record: none where the record says nothing of it. -/
def originOf (j : Json) : Except Failure (Option Origin) :=
  if j.isTrivial then .ok none
  else match Origin.ofJson? j with
    | some origin => .ok (some origin)
    | none => .error .unknownOrigin

/-- **The link of a record.** -/
def ofRecord (j : Json) : Except Failure Link := do
  if !j.isObject then throw .notALinkRecord
  let specifiers ← (← j.required "importSpecifiers").elements
  let source ← j.required "source"
  let origin ← originOf (j.field "classification")
  return { specifiers, source, assertion := j.field "assertionType", origin }

/-- **The record of a list of links.** -/
def listRecord (links : List Link) : Json :=
  .obj [(Text.ofString "result", .arr (links.map record))]

/-- **The list of links of a record.** -/
def listOfRecord (j : Json) : Except Failure (List Link) := do
  if !j.isObject then throw .notAListRecord
  (← (← j.required "result").elements).mapM ofRecord

end Link

end ModuleLinks

/-
Links, and what their records keep of them.

A record has a place for every field of a link. It leaves two of them out when
there is nothing to say: an origin that is not known, and an assertion that is
trivial. The first is read as it was. The second is read as `null`, whatever
trivial value it had, so a record is exact but for that.

Main statement: `listOfRecord_listRecord`.
-/
import ModuleLinks.Link.Record
import ModuleLinks.Proofs.Outcome

set_option autoImplicit false

namespace ModuleLinks.Link

variable {link : Link}

/-- **The link that its record describes**: without an assertion that is trivial. -/
def recorded (link : Link) : Link :=
  { link with assertion := if link.assertion.isTrivial then .null else link.assertion }

/-- A link is recorded as it is unless its assertion is trivial and not `null`. -/
theorem recorded_eq_self_iff :
    link.recorded = link ↔ (link.assertion.isTrivial = true → link.assertion = .null) := by
  obtain ⟨specifiers, source, assertion, origin⟩ := link
  by_cases htrivial : assertion.isTrivial = true
  · simp [recorded, htrivial, eq_comm]
  · simp [recorded, htrivial]

/-- **Reading the record of a link** gives the link that the record describes. -/
theorem ofRecord_record (link : Link) : ofRecord (record link) = .ok link.recorded := by
  obtain ⟨specifiers, source, assertion, origin⟩ := link
  -- A record has four layouts, one for each choice of the fields that may be left out.
  by_cases htrivial : assertion.isTrivial = true
  · rcases origin with _ | _ | _ <;> simp only [record, recorded, if_pos htrivial] <;> rfl
  · rcases origin with _ | _ | _ <;> simp only [record, recorded, if_neg htrivial] <;> rfl

/-- **Reading the record of several links** gives the links that their records describe. -/
theorem listOfRecord_listRecord (links : List Link) :
    listOfRecord (listRecord links) = .ok (links.map recorded) := by
  show (links.map record).mapM ofRecord = _
  rw [Outcome.mapM_eq_ok, List.forall₂_map_left_iff, List.forall₂_map_right_iff, List.forall₂_same]
  exact fun link _ => ofRecord_record link

end ModuleLinks.Link

/-
The metadata of nodes.

Parsers attach to nodes what does not belong to the program: where they stand in the text,
the comments around them, the tokens they were read from. Such metadata may hold anything,
also what looks like a declaration. Here it is taken away, from all objects in a document,
and what is left is read as the document was: taking it away is a likeness, and the
children of a node without metadata are its children without metadata, in their order. So
two documents that differ in their metadata only have the same survey.

Taking away must not leave an object empty: a parser may ask of a value whether it is
empty.

Main statement: `survey_metadata`.
-/
import ModuleLinks.Proofs.Likeness

set_option autoImplicit false

namespace ModuleLinks

namespace Json

/-! ## Taking fields away -/

mutual

/-- **The value without the fields that have one of the keys**, at every depth. -/
def without (keys : List String) : Json → Json
  | .arr items => .arr (withoutItems keys items)
  | .obj fields => .obj (withoutFields keys fields)
  | j => j

/-- The items of a list, each without the keys. -/
def withoutItems (keys : List String) : List Json → List Json
  | [] => []
  | item :: rest => without keys item :: withoutItems keys rest

/-- The fields of an object under other keys, each without the keys inside. -/
def withoutFields (keys : List String) : List (Text × Json) → List (Text × Json)
  | [] => []
  | (key, value) :: rest =>
    if key.isOneOf keys then withoutFields keys rest
    else (key, without keys value) :: withoutFields keys rest

end

variable {keys : List String}

theorem without_leaf {j : Json} (h : j.isContainer = false) : j.without keys = j := by
  cases j with
  | arr _ | obj _ => cases h
  | _ => rw [without] <;> exact nofun

/-- The items as a map, which the recursion cannot be written as. -/
theorem withoutItems_eq (items : List Json) :
    withoutItems keys items = items.map (without keys) := by
  induction items with
  | nil => rfl
  | cons item rest ih => rw [withoutItems, List.map_cons, ih]

theorem without_arr (items : List Json) :
    without keys (.arr items) = .arr (items.map (without keys)) := by
  rw [without, withoutItems_eq]

theorem isObject_without (j : Json) : (j.without keys).isObject = j.isObject := by
  cases j with
  | arr _ | obj _ => rw [without]; rfl
  | _ => rw [without_leaf rfl]

theorem isContainer_without (j : Json) : (j.without keys).isContainer = j.isContainer := by
  cases j with
  | arr _ | obj _ => rw [without]; rfl
  | _ => rw [without_leaf rfl]

theorem int?_without (j : Json) : (j.without keys).int? = j.int? := by
  cases j with
  | arr _ | obj _ => rw [without]; rfl
  | _ => rw [without_leaf rfl]

theorem isOneOf_ofString (key : String) (keys : List String) :
    (Text.ofString key).isOneOf keys = decide (key ∈ keys) := by
  rw [Bool.eq_iff_iff, decide_eq_true_eq]
  simp [Text.isOneOf, Text.is]

/-- The fields that stay have their values, without what is taken away there. -/
theorem lookup_withoutFields {key : Text} (hkey : key.isOneOf keys = false)
    (fields : List (Text × Json)) :
    (withoutFields keys fields).lookup key = (fields.lookup key).map (without keys) := by
  induction fields with
  | nil => rfl
  | cons field rest ih =>
    obtain ⟨name, value⟩ := field
    rw [withoutFields, List.lookup_cons]
    -- A field under the key is not taken away, and one under another key is passed over.
    by_cases hname : key = name
    · subst hname
      simp [hkey]
    · have hne : (key == name) = false := by simpa using hname
      rw [hne]
      split
      · exact ih
      · rw [List.lookup_cons, hne]
        exact ih

/-- **A field under another key stays**, without the keys inside. -/
theorem field?_without {key : String} (hkey : key ∉ keys) (j : Json) :
    (j.without keys).field? key = (j.field? key).map (without keys) := by
  cases j with
  | arr _ => rw [without]; rfl
  | obj fields =>
    rw [without]
    exact lookup_withoutFields (by simp [isOneOf_ofString, hkey]) fields
  | _ => rw [without_leaf rfl]; rfl

theorem field_without {key : String} (hkey : key ∉ keys) (j : Json) :
    (j.without keys).field key = (j.field key).without keys := by
  rw [field, field, field?_without hkey]
  cases j.field? key with
  | none => exact (without_leaf rfl).symm
  | some value => rfl

/-! ## The nodes that stay -/

/-- A value holds the same nodes, without the keys inside. -/
theorem nodesOf_without (j : Json) :
    nodesOf (j.without keys) = (nodesOf j).map (without keys) := by
  cases j with
  | obj fields =>
    rw [without]
    exact (congrArg (fun node => [node]) (by rw [without])).symm
  | arr items =>
    rw [without_arr]
    show (items.map _).filter isObject = (items.filter isObject).map _
    rw [List.filter_map]
    congr 2
    exact funext isObject_without
  | _ => rw [without_leaf rfl]; rfl

/-- Fields that hold no nodes of the program may be taken away. -/
theorem occurrences_withoutFields (hkeys : ∀ key ∈ keys, key ∈ metadataKeys)
    (fields : List (Text × Json)) :
    occurrences (withoutFields keys fields) = (occurrences fields).map (without keys) := by
  induction fields with
  | nil => rfl
  | cons field rest ih =>
    obtain ⟨key, value⟩ := field
    rw [withoutFields, occurrences, List.map_append, ← ih]
    -- A field that is taken away is metadata, and no nodes of the program occur in it.
    by_cases hkey : key.isOneOf keys = true
    · have hmetadata : key.isOneOf metadataKeys = true := by
        obtain ⟨word, hword, his⟩ := List.any_eq_true.1 hkey
        exact List.any_eq_true.2 ⟨word, hkeys word hword, his⟩
      rw [if_pos hkey, if_pos hmetadata]
      rfl
    · rw [if_neg hkey, occurrences]
      congr 1
      split
      · rfl
      · exact nodesOf_without value

/-- **The children without metadata**, if it does not tell where they stand. -/
theorem children_without (hkeys : ∀ key ∈ keys, key ∈ metadataKeys) {offset? : Json → Option Int}
    (hoffset : ∀ node, offset? (node.without keys) = offset? node) (node : Json) :
    children offset? (node.without keys) = (children offset? node).map (without keys) := by
  cases node with
  | obj fields =>
    rw [without, children, occurrences_withoutFields hkeys, inOrder_map hoffset]
    rfl
  | arr items =>
    rw [without_arr]
    show (items.map _).filter isContainer = (items.filter isContainer).map _
    rw [List.filter_map]
    congr 2
    exact funext isContainer_without
  | _ => rw [without_leaf rfl]; rfl

end Json

namespace ObjectParser

/-! ## The likeness -/

/-- **A value that parsers can hand out without metadata**: it is no empty object, and what it
spells as a name is a text, or nothing. -/
structure IsDescribed (p : ObjectParser) (node : Json) : Prop where
  filled : node.isObject = true → node.isTrivial = false
  name : (p.dialect.spelledName node).isTextOrNull = true

instance (p : ObjectParser) (node : Json) : Decidable (p.IsDescribed node) :=
  decidable_of_iff _ ⟨fun h => ⟨h.1, h.2⟩, fun h => And.intro h.filled h.name⟩

/-- The first value is the second one without metadata. -/
def Bared (p : ObjectParser) (a b : Json) : Prop :=
  a = b.without p.ignoredKeys ∧ a.Everywhere p.IsDescribed

theorem isDescribed_leaf (p : ObjectParser) {j : Json} (hj : j.isContainer = false) :
    p.IsDescribed j where
  filled := by
    cases j with
    | obj _ => cases hj
    | _ => exact nofun
  name := by rw [p.spelledName_leaf hj]; rfl

/-- Described nodes without the keys go with the nodes themselves, one by one. -/
theorem forall₂_bared (p : ObjectParser) {nodes : List Json}
    (h : ∀ node ∈ nodes, (node.without p.ignoredKeys).Everywhere p.IsDescribed) :
    List.Forall₂ p.Bared (nodes.map (Json.without p.ignoredKeys)) nodes := by
  rw [List.forall₂_map_left_iff, List.forall₂_same]
  exact fun node hnode => ⟨rfl, h node hnode⟩

/-- **No question sees what is under ignored keys.** -/
theorem isLikeness_bared (p : ObjectParser) : p.IsLikeness p.Bared where
  leaf hj := ⟨(Json.without_leaf hj).symm, .of_not_isContainer hj (p.isDescribed_leaf hj)⟩
  name h := h.2.here.name
  shape := by
    rintro _ b ⟨rfl, hdescribed⟩
    cases b with
    | arr items =>
      rw [Json.without_arr] at hdescribed ⊢
      exact .list (p.forall₂_bared fun item hitem =>
        hdescribed.of_mem_items (List.mem_map_of_mem hitem))
    | obj fields =>
      have hkept := fun key (hkey : key ∉ p.ignoredKeys) => Json.field?_without hkey (.obj fields)
      rw [Json.without] at hkept hdescribed ⊢
      refine .object ⟨fun hnil => ?_, fun hnil => by rw [hnil]; rfl⟩ fun key hkey => ?_
      · -- What is left is not empty, so the object was not.
        have hfilled := hdescribed.here.filled rfl
        rw [hnil] at hfilled
        cases hfilled
      · have hvalue := hdescribed.field (p.isDescribed_leaf rfl) key
        rw [Json.field, hkept key hkey] at hvalue
        rw [hkept key hkey]
        cases hfound : (Json.obj fields).field? key with
        | none => exact .none
        | some value =>
          rw [hfound] at hvalue
          exact .some ⟨rfl, hvalue⟩
    | _ => rw [Json.without_leaf rfl]; exact .leaf rfl

/-! ## Children -/

/-- What a parser ignores is metadata. -/
theorem ignoredKeys_subset (p : ObjectParser) : ∀ key ∈ p.ignoredKeys, key ∈ Json.metadataKeys := by
  cases p <;> decide

/-- Positions are no metadata. -/
theorem offset?_without (p : ObjectParser) (node : Json) :
    p.dialect.offset? (node.without p.ignoredKeys) = p.dialect.offset? node := by
  have hstart : ∀ j : Json,
      ((j.without p.ignoredKeys).field "start").int? = (j.field "start").int? := fun j => by
    rw [Json.field_without (p.not_mem_ignoredKeys "start" (by decide)), Json.int?_without]
  cases p with
  | babel => exact hstart node
  | oxc => exact hstart node
  | swc =>
    show (((node.without _).field "span").field "start").int? = _
    rw [Json.field_without (by decide)]
    exact hstart _

/-- **The children are the same without the keys**: metadata holds no nodes of the program. -/
theorem children_bared {p : ObjectParser} {a b : Json} (h : p.Bared a b) :
    List.Forall₂ p.Bared (p.dialect.toDialect.children a) (p.dialect.toDialect.children b) := by
  obtain ⟨rfl, hdescribed⟩ := h
  have hchildren : p.dialect.toDialect.children (b.without p.ignoredKeys)
      = (p.dialect.toDialect.children b).map (Json.without p.ignoredKeys) :=
    Json.children_without p.ignoredKeys_subset p.offset?_without b
  rw [hchildren]
  refine p.forall₂_bared fun child hchild => ?_
  have hmem : child.without p.ignoredKeys
      ∈ p.dialect.toDialect.children (b.without p.ignoredKeys) := by
    rw [hchildren]
    exact List.mem_map_of_mem hchild
  exact hdescribed.of_mem_children hmem

/-- **The survey of a document** is that of the document without metadata. -/
theorem survey_without {p : ObjectParser} {document root : Json} (file : Json)
    (hroot : p.dialect.root (.json document) = .ok root)
    (hdescribed : (document.without p.ignoredKeys).Everywhere p.IsDescribed) :
    p.dialect.toDialect.survey file (.json (document.without p.ignoredKeys))
      = p.dialect.toDialect.survey file (.json document) := by
  have hlike := p.isLikeness_bared
  obtain ⟨bare, hbare, hrelated⟩ := hlike.exists_root_left ⟨rfl, hdescribed⟩ hroot
  exact Dialect.survey_eq_of_map_link? file hbare hroot
    (Dialect.map_link?_preorder (fun _ _ => hlike.link?_eq) (fun _ _ => children_bared) hrelated)

end ObjectParser

/-- **Metadata has no influence.** Two documents that are the same when their metadata is taken
away have the same survey: the same links or the same failure, and the same log. What is asked
of documents is asked of what is left, so the metadata itself may be anything. -/
theorem survey_metadata (p : ObjectParser) (file document other root : Json)
    (hroot : p.dialect.root (.json document) = .ok root)
    (hsame : document.without p.ignoredKeys = other.without p.ignoredKeys)
    (hdescribed : (document.without p.ignoredKeys).Everywhere p.IsDescribed) :
    p.dialect.toDialect.survey file (.json document)
      = p.dialect.toDialect.survey file (.json other) := by
  have hlike := p.isLikeness_bared
  obtain ⟨bare, hbare, -⟩ := hlike.exists_root_left ⟨rfl, hdescribed⟩ hroot
  obtain ⟨otherRoot, hother, -⟩ := hlike.exists_root ⟨hsame, hdescribed⟩ hbare
  -- Both are compared with what is left of them, which is the same.
  rw [← ObjectParser.survey_without file hroot hdescribed, hsame]
  exact ObjectParser.survey_without file hother (hsame ▸ hdescribed)

/-- The scrambled program with metadata: a list of comments that holds a malformed declaration,
and an empty object. -/
def commentedProgram : Json :=
  placedNode "Program" 0
    [("leadingComments", .arr [earlyDeclaration]), ("last", lateStatement),
      ("first", placedNode "ImportDeclaration" 0 [("extra", .obj [])])]

theorem survey_metadata_commentedProgram :
    babel.root (.json commentedProgram) = .ok commentedProgram
      ∧ commentedProgram.without ObjectParser.babel.ignoredKeys
        = scrambledProgram.without ObjectParser.babel.ignoredKeys
      ∧ babel.toDialect.survey .null (.json commentedProgram)
        = babel.toDialect.survey .null (.json scrambledProgram) := by
  have hsame : commentedProgram.without ObjectParser.babel.ignoredKeys
      = scrambledProgram.without ObjectParser.babel.ignoredKeys := by rfl
  exact ⟨rfl, hsame,
    survey_metadata .babel .null commentedProgram scrambledProgram commentedProgram rfl hsame
      (by decide)⟩

end ModuleLinks

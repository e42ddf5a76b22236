/-
Trees that look alike to a survey.

Two object trees can differ and still have the same links: their fields may stand in
another order, or they may carry other metadata. Both are cases of one thing. A survey
asks a value for its fields by their keys, for the items of a list, for its text and for
whether it is empty, and it has no other way to look at it. So a relation between values
that is kept by each of these steps is one that no question can see through: a
**likeness**. It need not be reflexive and it need not be an equivalence; what counts is
that related values have the same shape and hold related values again.

A name is the one value that a survey passes on as it is, so related values have the same
name only if that name is a text, or none.

Where the children of related nodes are related as well, in order or up to order, the same
follows for all nodes of the two walks. The order of children is not part of a likeness,
as it is not decided key by key.

Main statements: `IsLikeness.link?_eq`, `Dialect.map_link?_preorder` and
`Dialect.map_link?_preorder_perm`.
-/
import Mathlib.Data.List.Forall2
import Mathlib.Data.List.Perm.Basic
import ModuleLinks.Proofs.Agreement
import ModuleLinks.Proofs.Document
import ModuleLinks.Proofs.ObjectReading
import ModuleLinks.Proofs.SourceOrder

set_option autoImplicit false

namespace ModuleLinks

/-- Members that are related by their images make the same list of images. -/
theorem map_eq_map_of_forall₂ {α β γ : Type} {f : α → γ} {g : β → γ} {as : List α} {bs : List β}
    (h : List.Forall₂ (fun a b => f a = g b) as bs) : as.map f = bs.map g := by
  rw [← List.forall₂_eq_eq_eq, List.forall₂_map_left_iff, List.forall₂_map_right_iff]
  exact h

namespace Json

/-! ## Related fields -/

/-- The same key, with related values. -/
inductive SameKey (R : Json → Json → Prop) : Text × Json → Text × Json → Prop where
  | mk {key : Text} {value value' : Json} (h : R value value') : SameKey R (key, value) (key, value')

variable {R : Json → Json → Prop} {fields fields' : List (Text × Json)}

/-- Likenesses go through the values of fields and leave the keys alone. -/
theorem map_fst_of_sameKey (h : List.Forall₂ (SameKey R) fields fields') :
    fields.map Prod.fst = fields'.map Prod.fst :=
  map_eq_map_of_forall₂ (h.imp fun _ _ hfield => by cases hfield; rfl)

/-- A look-up finds like values under the same key, or none in both objects. -/
theorem lookup_of_sameKey (h : List.Forall₂ (SameKey R) fields fields') (key : Text) :
    Option.Rel R (fields.lookup key) (fields'.lookup key) := by
  induction h with
  | nil => exact .none
  | cons hfield _ ih =>
    cases hfield with
    | mk hvalue =>
      rw [List.lookup_cons, List.lookup_cons]
      split
      · exact .some hvalue
      · exact ih

/-- What is true of all values may be known of related values. -/
theorem sameKey_and_left {P : Json → Prop} (hP : ∀ field ∈ fields, P field.2)
    (h : List.Forall₂ (SameKey R) fields fields') :
    List.Forall₂ (SameKey fun a b => R a b ∧ P a) fields fields' :=
  ((List.forall₂_and_left _ _).2 ⟨hP, h⟩).imp fun _ _ hfield => by
    obtain ⟨hleft, ⟨hvalue⟩⟩ := hfield
    exact .mk ⟨hvalue, hleft⟩

end Json

namespace ObjectParser

/-! ## Likenesses -/

/-- **The metadata that no question reads.** One parser keeps the positions of nodes under
`span`, which is metadata to the others. -/
def ignoredKeys : ObjectParser → List String
  | babel | oxc => Json.metadataKeys
  | swc => Json.metadataKeys.erase "span"

/-- The keys that the questions of all parsers ask for. -/
def readKeys : List String :=
  ["type", "start", "program", "specifiers", "imported", "local", "exported", "orig", "source",
   "name", "value", "key", "attributes", "assertions", "withClause", "withEntries", "asserts",
   "with", "properties", "callee", "arguments", "expression"]

/-- No question asks for a key that is ignored. -/
theorem not_mem_ignoredKeys (p : ObjectParser) (key : String) (h : key ∈ readKeys) :
    key ∉ p.ignoredKeys := by
  have hnone : ∀ key ∈ readKeys, key ∉ p.ignoredKeys := by
    cases p <;> decide
  exact hnone key h

/-- A value that holds no others is no name. -/
theorem spelledName_leaf (p : ObjectParser) {j : Json} (hj : j.isContainer = false) :
    p.dialect.spelledName j = .null := by
  cases j with
  | arr _ | obj _ => cases hj
  | _ => cases p <;> rfl

/-- **Two values have the same shape**, and what they hold is related: lists item by item,
and objects key by key, save for the keys that are ignored. -/
inductive SameShape (p : ObjectParser) (S : Json → Json → Prop) : Json → Json → Prop where
  | leaf {j : Json} (h : j.isContainer = false) : SameShape p S j j
  | list {items items' : List Json} (h : List.Forall₂ S items items') :
    SameShape p S (.arr items) (.arr items')
  | object {fields fields' : List (Text × Json)} (hempty : fields = [] ↔ fields' = [])
    (hfields : ∀ key ∉ p.ignoredKeys,
      Option.Rel S (Json.field? (.obj fields) key) (Json.field? (.obj fields') key)) :
    SameShape p S (.obj fields) (.obj fields')

/-- **A relation that no question sees through.** -/
structure IsLikeness (p : ObjectParser) (S : Json → Json → Prop) : Prop where
  leaf : ∀ {j : Json}, j.isContainer = false → S j j
  shape : ∀ {a b : Json}, S a b → p.SameShape S a b
  /-- What a node spells is a text, or nothing. -/
  name : ∀ {a b : Json}, S a b → (p.dialect.spelledName a).isTextOrNull = true

variable {p : ObjectParser} {S : Json → Json → Prop} {a b : Json}

namespace SameShape

/-- Like values have the same shape: objects, lists and plain values are told apart alike. -/
theorem isObject (h : p.SameShape S a b) : a.isObject = b.isObject := by
  cases h <;> rfl

theorem isContainer (h : p.SameShape S a b) : a.isContainer = b.isContainer := by
  cases h <;> rfl

theorem isNull (h : p.SameShape S a b) : a.isNull = b.isNull := by
  cases h <;> rfl

theorem text? (h : p.SameShape S a b) : a.text? = b.text? := by
  cases h <;> rfl

theorem int? (h : p.SameShape S a b) : a.int? = b.int? := by
  cases h <;> rfl

theorem isTrivial (h : p.SameShape S a b) : a.isTrivial = b.isTrivial := by
  cases h with
  | leaf => rfl
  | list h => cases h <;> rfl
  | @object fields fields' hempty =>
    have hlist : fields.isEmpty = fields'.isEmpty := by
      rw [Bool.eq_iff_iff, List.isEmpty_iff, List.isEmpty_iff, hempty]
    exact hlist

/-- A text, or `null`, is alike to itself alone. -/
theorem eq_of_isTextOrNull (h : p.SameShape S a b) (ha : a.isTextOrNull = true) : a = b := by
  cases h with
  | leaf => rfl
  | list => cases ha
  | object => cases ha

theorem items (h : p.SameShape S a b) : List.Forall₂ S a.items b.items := by
  cases h with
  | leaf hleaf =>
    cases a with
    | arr _ => cases hleaf
    | _ => exact .nil
  | list h => exact h
  | object => exact .nil

/-- **A field that is read** is in both values or in neither. -/
theorem field? (h : p.SameShape S a b) {key : String} (hkey : key ∉ p.ignoredKeys) :
    Option.Rel S (a.field? key) (b.field? key) := by
  cases h with
  | leaf hleaf =>
    cases a with
    | obj _ => cases hleaf
    | _ => exact .none
  | list => exact .none
  | object _ hfields => exact hfields key hkey

end SameShape

namespace IsLikeness

/-- Like nodes have like values under every key that is not skipped. -/
theorem field (hS : p.IsLikeness S) (h : S a b) {key : String} (hkey : key ∉ p.ignoredKeys) :
    S (a.field key) (b.field key) := by
  have hfield := (hS.shape h).field? hkey
  unfold Json.field
  generalize a.field? key = x, b.field? key = y at hfield
  cases hfield with
  | none => exact hS.leaf rfl
  | some hvalue => exact hvalue

theorem read (hS : p.IsLikeness S) (h : S a b) (key : String) (hkey : key ∈ readKeys) :
    S (a.field key) (b.field key) :=
  hS.field h (p.not_mem_ignoredKeys key hkey)

/-! ## Types and names -/

theorem nodeType? (hS : p.IsLikeness S) (h : S a b) : a.nodeType? = b.nodeType? :=
  (hS.shape (hS.read h "type" (by decide))).text?

theorem hasType (hS : p.IsLikeness S) (h : S a b) (type : String) :
    a.hasType type = b.hasType type := by
  rw [Json.hasType, Json.hasType, hS.nodeType? h]

theorem hasTypeIn (hS : p.IsLikeness S) (h : S a b) (types : List String) :
    a.hasTypeIn types = b.hasTypeIn types := by
  have hsame : a.hasType = b.hasType := funext (hS.hasType h)
  rw [Json.hasTypeIn, Json.hasTypeIn, hsame]

/-- The text of a string literal is read off fields that are not skipped. -/
theorem literal? (hS : p.IsLikeness S) (h : S a b) : p.dialect.literal? a = p.dialect.literal? b := by
  have hvalue : (a.field "value").text? = (b.field "value").text? :=
    (hS.shape (hS.read h "value" (by decide))).text?
  cases p with
  | babel =>
    show Babel.literal? a = Babel.literal? b
    rw [Babel.literal?, Babel.literal?, hS.hasType h, hvalue]
  | oxc =>
    show Oxc.literal? a = Oxc.literal? b
    rw [Oxc.literal?, Oxc.literal?, hS.hasTypeIn h, hvalue]
  | swc =>
    show Swc.literal? a = Swc.literal? b
    rw [Swc.literal?, Swc.literal?, hS.hasType h, hvalue]

/-- **Names are the same**, as they are texts. -/
theorem spelledName (hS : p.IsLikeness S) (h : S a b) :
    p.dialect.spelledName a = p.dialect.spelledName b := by
  have hname := hS.name h
  -- A name that is a text, or missing, is alike to itself alone.
  have hsame : ∀ {key : String}, key ∈ readKeys → (a.field key).isTextOrNull = true →
      a.field key = b.field key := fun hkey htext =>
    (hS.shape (hS.read h _ hkey)).eq_of_isTextOrNull htext
  cases p with
  | babel =>
    change (Babel.spelledName a).isTextOrNull = true at hname
    show Babel.spelledName a = Babel.spelledName b
    rw [Babel.spelledName] at hname
    rw [Babel.spelledName, Babel.spelledName, ← hS.hasType h, ← hS.hasType h]
    by_cases hidentifier : a.hasType "Identifier" = true
    · rw [if_pos hidentifier] at hname
      rw [if_pos hidentifier, if_pos hidentifier, hsame (by decide) hname]
    rw [if_neg hidentifier] at hname
    rw [if_neg hidentifier, if_neg hidentifier]
    by_cases hstring : a.hasType "StringLiteral" = true
    · rw [if_pos hstring] at hname
      rw [if_pos hstring, if_pos hstring, hsame (by decide) hname]
    · rw [if_neg hstring, if_neg hstring]
  | oxc =>
    have hliteral : Oxc.literal? a = Oxc.literal? b := hS.literal? h
    change (Oxc.spelledName a).isTextOrNull = true at hname
    show Oxc.spelledName a = Oxc.spelledName b
    rw [Oxc.spelledName] at hname
    rw [Oxc.spelledName, Oxc.spelledName, ← hS.hasTypeIn h, hliteral]
    by_cases hidentifier : a.hasTypeIn Oxc.identifierTypes = true
    · rw [if_pos hidentifier] at hname
      rw [if_pos hidentifier, if_pos hidentifier, hsame (by decide) hname]
    · rw [if_neg hidentifier, if_neg hidentifier]
  | swc =>
    have hvalue := (hS.shape (hS.read h "value" (by decide))).text?
    show Swc.spelledName a = Swc.spelledName b
    rw [Swc.spelledName, Swc.spelledName, hS.hasTypeIn h, hvalue]

/-- The position is read under keys that are not skipped: a parser that keeps it in a span does
not skip spans. -/
theorem offset? (hS : p.IsLikeness S) (h : S a b) : p.dialect.offset? a = p.dialect.offset? b := by
  cases p with
  | babel => exact (hS.shape (hS.read h "start" (by decide))).int?
  | oxc => exact (hS.shape (hS.read h "start" (by decide))).int?
  | swc =>
    -- The positions stand under a key that this parser alone reads.
    have hspan : S (a.field "span") (b.field "span") := hS.field h (by decide)
    exact (hS.shape (hS.read hspan "start" (by decide))).int?

/-! ## Specifiers -/

/-- Like declarations have like specifiers, in the same order. -/
theorem specifiers (hS : p.IsLikeness S) (h : S a b) :
    List.Forall₂ S a.specifiers b.specifiers := by
  have hitems := (hS.shape (hS.read h "specifiers" (by decide))).items
  refine List.rel_filter ?_ hitems
  intro item item' hitem
  exact Bool.eq_iff_iff.1 (hS.shape hitem).isObject

theorem reach (hS : p.IsLikeness S) (h : S a b) : a.reach = b.reach := by
  rw [Json.reach, Json.reach, hS.hasTypeIn h, hS.hasTypeIn h]

/-- The name that an export takes is looked up where the parser has it. -/
theorem taken (hS : p.IsLikeness S) (h : S a b) : S (p.dialect.taken a) (p.dialect.taken b) := by
  -- Only one of the parsers has a field of its own for it.
  cases p with
  | babel => exact hS.leaf rfl
  | oxc => exact hS.leaf rfl
  | swc => exact hS.read h "orig" (by decide)

/-- So is the name under which it exports, with the other name in place of a missing one. -/
theorem exported (hS : p.IsLikeness S) (h : S a b) :
    S (p.dialect.exported a) (p.dialect.exported b) := by
  have hexported : S (a.field "exported") (b.field "exported") := hS.read h "exported" (by decide)
  cases p with
  | babel => exact hexported
  | oxc => exact hexported
  | swc =>
    show S (Swc.exported a) (Swc.exported b)
    rw [Swc.exported, Swc.exported, ← (hS.shape hexported).isNull]
    split
    · exact hS.read h "orig" (by decide)
    · exact hexported

theorem typeDetail (hS : p.IsLikeness S) (h : S a b) :
    p.dialect.toDialect.typeDetail a = p.dialect.toDialect.typeDetail b :=
  congrArg Json.ofText? (hS.nodeType? h)

theorem malformed (hS : p.IsLikeness S) (h : S a b) (reason : String) :
    p.dialect.toDialect.malformed a reason = p.dialect.toDialect.malformed b reason := by
  rw [Dialect.malformed, Dialect.malformed, hS.typeDetail h]

theorem namedAlike (hS : p.IsLikeness S) (h : S a b) :
    Dialect.NamedAlike Eq p.dialect.toDialect p.dialect.toDialect a b where
  reach := hS.reach h
  imported := congrArg Except.ok (hS.spelledName (hS.read h "imported" (by decide)))
  taken := congrArg Except.ok (hS.spelledName (hS.taken h))
  bound := congrArg Except.ok (hS.spelledName (hS.read h "local" (by decide)))
  exported := congrArg Except.ok (hS.spelledName (hS.exported h))
  malformed := hS.malformed h

/-! ## Attributes -/

/-- The attributes of a declaration are like ones, whichever of its fields they come from. -/
theorem attributes (hS : p.IsLikeness S) (h : S a b) :
    S (p.dialect.attributes a) (p.dialect.attributes b) := by
  have hattributes : S (a.field "attributes") (b.field "attributes") := hS.read h "attributes" (by decide)
  have horElse : ∀ {x y x' y' : Json}, S x x' → S y y' → S (x.orElse y) (x'.orElse y') := by
    intro x y x' y' hx hy
    -- Both go on to the second value, or neither does.
    rw [Json.orElse, Json.orElse, ← (hS.shape hx).isTrivial]
    split
    · exact hy
    · exact hx
  cases p with
  | babel => exact horElse hattributes (hS.read h "assertions" (by decide))
  | oxc =>
    show S (Oxc.attributes a) (Oxc.attributes b)
    rw [Oxc.attributes, Oxc.attributes, ← (hS.shape hattributes).isNull]
    split
    · exact hS.read (hS.read h "withClause" (by decide)) "withEntries" (by decide)
    · exact hattributes
  | swc =>
    have hclause := horElse (hS.read h "asserts" (by decide)) (hS.read h "with" (by decide))
    exact hS.read hclause "properties" (by decide)

/-- The asserted type is found in the same attribute. -/
theorem typeAttribute? (hS : p.IsLikeness S) {items items' : List Json}
    (h : List.Forall₂ S items items') :
    p.dialect.typeAttribute? items = p.dialect.typeAttribute? items' := by
  induction h with
  | nil => rfl
  | cons hhead _ ih =>
    rw [typeAttribute?_cons, typeAttribute?_cons, ih, hS.spelledName (hS.read hhead "key" (by decide)),
      hS.literal? (hS.read hhead "value" (by decide))]

/-- The keys of an object are no attributes, whatever they are. -/
theorem typeAttribute?_keys (p : ObjectParser) (fields : List (Text × Json)) :
    p.dialect.typeAttribute? (fields.map fun field => .str field.1) = none := by
  induction fields with
  | nil => rfl
  | cons field rest ih =>
    have hnull : (Json.str field.1).field "key" = .null := rfl
    rw [List.map_cons, typeAttribute?_cons, ih, hnull, spelledName_null]
    rfl

theorem assertion? (hS : p.IsLikeness S) (h : S a b) :
    p.dialect.assertion? a = p.dialect.assertion? b := by
  have hshape := hS.shape (hS.attributes h)
  rw [ObjectDialect.assertion?, ObjectDialect.assertion?, ← hshape.isTrivial]
  generalize p.dialect.attributes a = x, p.dialect.attributes b = y at hshape
  -- A loop over an object goes over its keys, and these may differ.
  cases hshape with
  | leaf => rfl
  | list hitems =>
    split
    · rfl
    · exact congrArg Except.ok (hS.typeAttribute? hitems)
  | @object fields fields' =>
    split
    · rfl
    · exact congrArg Except.ok
        ((typeAttribute?_keys p fields).trans (typeAttribute?_keys p fields').symm)

/-! ## Dynamic imports -/

/-- A call of the import keyword is told by the types of two nodes. -/
theorem isDynamicImport (hS : p.IsLikeness S) (h : S a b) :
    p.dialect.isDynamicImport a = p.dialect.isDynamicImport b := by
  have hcallee : S (a.field "callee") (b.field "callee") := hS.read h "callee" (by decide)
  cases p with
  | babel =>
    show Babel.isDynamicImport a = Babel.isDynamicImport b
    rw [Babel.isDynamicImport, Babel.isDynamicImport, hS.hasType h, hS.hasType h, hS.hasType hcallee]
  | oxc => exact hS.hasType h "ImportExpression"
  | swc =>
    show Swc.isDynamicImport a = Swc.isDynamicImport b
    rw [Swc.isDynamicImport, Swc.isDynamicImport, hS.hasType h, hS.hasType hcallee]

/-- **Two questions for an argument** have the same answer, or are answered by related
values. -/
inductive SameAnswer (S : Json → Json → Prop) : Except Failure Json → Except Failure Json → Prop where
  | same (x : Except Failure Json) : SameAnswer S x x
  | related {x y : Json} (h : S x y) : SameAnswer S (.ok x) (.ok y)

/-- The first of the arguments, or the same failure if there is no list of them. -/
theorem firstArgument_babel (hS : p.IsLikeness S) (h : S a b) :
    SameAnswer S (Babel.firstArgument a) (Babel.firstArgument b) := by
  have hshape := hS.shape h
  cases hshape with
  | leaf => exact .same _
  | list hitems =>
    cases hitems with
    | nil => exact .same _
    | cons hhead _ => exact .related hhead
  -- The first of an object is looked up under a number, which is no key of it.
  | @object fields fields' hempty =>
    cases fields with
    | nil =>
      rw [hempty.1 rfl]
      exact .same _
    | cons field rest =>
      obtain ⟨field', rest', rfl⟩ := List.exists_cons_of_ne_nil
        fun hnil => List.cons_ne_nil _ _ (hempty.2 hnil)
      exact .same _

/-- The same with arguments that are wrapped together with their spread. -/
theorem firstArgument_swc (hS : p.IsLikeness S) (h : S a b) :
    SameAnswer S (Swc.firstArgument a) (Swc.firstArgument b) := by
  have hshape := hS.shape h
  cases hshape with
  | leaf => exact .same _
  | list hitems =>
    cases hitems with
    | nil => exact .same _
    | cons hhead _ => exact .related (hS.read hhead "expression" (by decide))
  | @object fields fields' hempty =>
    cases fields with
    | nil =>
      rw [hempty.1 rfl]
      exact .same _
    | cons field rest =>
      obtain ⟨field', rest', rfl⟩ := List.exists_cons_of_ne_nil
        fun hnil => List.cons_ne_nil _ _ (hempty.2 hnil)
      exact .same _

/-- What a dynamic import is called with, whichever parser wrote it. -/
theorem importArgument (hS : p.IsLikeness S) (h : S a b) :
    SameAnswer S (p.dialect.importArgument a) (p.dialect.importArgument b) := by
  have hsource : S (a.field "source") (b.field "source") := hS.read h "source" (by decide)
  have harguments : S (a.field "arguments") (b.field "arguments") := hS.read h "arguments" (by decide)
  have hobject := (hS.shape h).isObject
  cases p with
  | babel =>
    show SameAnswer S (Babel.importArgument a) (Babel.importArgument b)
    rw [Babel.importArgument, Babel.importArgument, ← hS.hasType h, ← hobject]
    split
    · exact .related hsource
    · split
      · exact hS.firstArgument_babel harguments
      · exact .same _
  | oxc =>
    show SameAnswer S (Oxc.importArgument a) (Oxc.importArgument b)
    rw [Oxc.importArgument, Oxc.importArgument, ← hobject]
    split
    · exact .related hsource
    · exact .same _
  | swc =>
    show SameAnswer S (Swc.importArgument a) (Swc.importArgument b)
    rw [Swc.importArgument, Swc.importArgument, ← hobject]
    split
    · exact hS.firstArgument_swc harguments
    · exact .same _

/-- So a dynamic import makes the same link or fails in the same way. -/
theorem dynamicLink? (hS : p.IsLikeness S) (h : S a b) :
    p.dialect.toDialect.dynamicLink? a = p.dialect.toDialect.dynamicLink? b := by
  have hsame := hS.isDynamicImport h
  cases hdynamic : p.dialect.isDynamicImport a with
  | false =>
    rw [hdynamic] at hsame
    rw [ObjectDialect.dynamicLink?_of_not hdynamic, ObjectDialect.dynamicLink?_of_not hsame.symm]
  | true =>
    rw [hdynamic] at hsame
    have hargument := hS.importArgument h
    generalize hx : p.dialect.importArgument a = x, hy : p.dialect.importArgument b = y at hargument
    cases hargument with
    | related hargument =>
      rw [ObjectDialect.dynamicLink?_of_argument hdynamic hx,
        ObjectDialect.dynamicLink?_of_argument hsame.symm hy, (hS.shape hargument).isNull,
        hS.literal? hargument]
      simp only [hS.malformed h]
    | same =>
      cases x with
      | ok argument =>
        rw [ObjectDialect.dynamicLink?_of_argument hdynamic hx,
          ObjectDialect.dynamicLink?_of_argument hsame.symm hy]
        simp only [hS.malformed h]
      | error e =>
        rw [ObjectDialect.dynamicLink?_of_error hdynamic hx,
          ObjectDialect.dynamicLink?_of_error hsame.symm hy]

/-! ## Nodes -/

theorem form? (hS : p.IsLikeness S) (h : S a b) : p.dialect.form? a = p.dialect.form? b := by
  simp only [ObjectDialect.form?, hS.hasType h]

/-- **Related nodes are read alike.** -/
theorem readAlike (hS : p.IsLikeness S) (h : S a b) :
    Dialect.ReadAlike Eq p.dialect.toDialect p.dialect.toDialect a b where
  form := hS.form? h
  tags := Dialect.alike_tags (fun _ => rfl) ((hS.specifiers h).imp fun _ _ => hS.namedAlike)
  hasSource := by
    show (!(a.field "source").isNull) = !(b.field "source").isNull
    rw [(hS.shape (hS.read h "source" (by decide))).isNull]
  source := congrArg Except.ok (hS.literal? (hS.read h "source" (by decide)))
  assertion := hS.assertion? h
  dynamic := by
    rw [hS.dynamicLink? h]
    exact .refl (fun _ => rfl) _
  malformed := hS.malformed h

/-- **Related nodes make the same link**, or fail in the same way. -/
theorem link?_eq (hS : p.IsLikeness S) (h : S a b) :
    p.dialect.toDialect.link? a = p.dialect.toDialect.link? b :=
  ((hS.readAlike h).link? fun _ => rfl).eq

/-! ## Children -/

/-- A field holds like nodes: itself, or the objects in its list. -/
theorem nodesOf (hS : p.IsLikeness S) (h : S a b) :
    List.Forall₂ S (Json.nodesOf a) (Json.nodesOf b) := by
  have hshape := hS.shape h
  cases hshape with
  | leaf hleaf =>
    rw [Json.nodesOf_of_not_isContainer hleaf]
    exact .nil
  | list hitems =>
    refine List.rel_filter ?_ hitems
    intro item item' hitem
    exact Bool.eq_iff_iff.1 (hS.shape hitem).isObject
  | object => exact .cons h .nil

/-- Related fields hold related nodes. -/
theorem occurrences (hS : p.IsLikeness S) {fields fields' : List (Text × Json)}
    (h : List.Forall₂ (Json.SameKey S) fields fields') :
    List.Forall₂ S (Json.occurrences fields) (Json.occurrences fields') := by
  induction h with
  | nil => exact .nil
  | cons hfield _ ih =>
    cases hfield with
    | mk hvalue =>
      rw [Json.occurrences, Json.occurrences]
      refine List.rel_append ?_ ih
      split
      · exact .nil
      · exact hS.nodesOf hvalue

/-- The lists and objects in related lists. -/
theorem containers (hS : p.IsLikeness S) {items items' : List Json} (h : List.Forall₂ S items items') :
    List.Forall₂ S (items.filter Json.isContainer) (items'.filter Json.isContainer) := by
  refine List.rel_filter ?_ h
  intro item item' hitem
  exact Bool.eq_iff_iff.1 (hS.shape hitem).isContainer

/-! ## Roots -/

/-- The program inside a document is found under the same key. -/
theorem unwrap (hS : p.IsLikeness S) (h : S a b) : S (p.dialect.unwrap a) (p.dialect.unwrap b) := by
  cases p with
  | babel => exact h
  | swc => exact h
  | oxc =>
    have htype := (hS.shape h).field? (not_mem_ignoredKeys oxc "type" (by decide))
    have hprogram := (hS.shape h).field? (not_mem_ignoredKeys oxc "program" (by decide))
    show S (Oxc.unwrap a) (Oxc.unwrap b)
    unfold Oxc.unwrap
    generalize a.field? "type" = type, b.field? "type" = type' at htype
    generalize a.field? "program" = program, b.field? "program" = program' at hprogram
    cases htype with
    | some => exact h
    | none =>
      cases hprogram with
      | none => exact h
      | some hvalue => exact hvalue

/-- Whether a document holds a program is answered alike. -/
theorem program? (hS : p.IsLikeness S) (h : S a b) :
    Option.Rel S (p.dialect.program? a) (p.dialect.program? b) := by
  cases p with
  | oxc => exact .some h
  | swc => exact .some h
  | babel =>
    have hprogram : S (a.field "program") (b.field "program") := hS.read h "program" (by decide)
    show Option.Rel S (Babel.program? a) (Babel.program? b)
    rw [Babel.program?, Babel.program?, ← hS.hasType h, ← hS.hasType hprogram]
    split
    · split
      · exact .some hprogram
      · exact .none
    · exact .some h

/-- **Related documents have related roots**, or neither is accepted. -/
theorem root_cases (hS : p.IsLikeness S) (h : S a b) :
    (∃ x y, p.dialect.root (.json a) = .ok x ∧ p.dialect.root (.json b) = .ok y ∧ S x y)
      ∨ ∃ e e', p.dialect.root (.json a) = .error e ∧ p.dialect.root (.json b) = .error e' := by
  have hunwrap := hS.unwrap h
  have hprogram := hS.program? hunwrap
  simp only [ObjectDialect.root, ← (hS.shape hunwrap).isObject, ← hS.hasTypeIn hunwrap]
  split_ifs
  · exact .inr ⟨_, _, rfl, rfl⟩
  · exact .inr ⟨_, _, rfl, rfl⟩
  generalize p.dialect.program? (p.dialect.unwrap a) = x,
    p.dialect.program? (p.dialect.unwrap b) = y at hprogram
  cases hprogram with
  | none => exact .inr ⟨_, _, rfl, rfl⟩
  | some hvalue => exact .inl ⟨_, _, rfl, rfl, hvalue⟩

/-- A document like one with an accepted root has an accepted root, and that is like the other. -/
theorem exists_root (hS : p.IsLikeness S) (h : S a b) {x : Json}
    (hx : p.dialect.root (.json a) = .ok x) : ∃ y, p.dialect.root (.json b) = .ok y ∧ S x y := by
  obtain ⟨x', y, hx', hy, hxy⟩ | ⟨e, _, he, _⟩ := hS.root_cases h
  · cases hx.symm.trans hx'
    exact ⟨y, hy, hxy⟩
  · cases hx.symm.trans he

theorem exists_root_left (hS : p.IsLikeness S) (h : S a b) {y : Json}
    (hy : p.dialect.root (.json b) = .ok y) : ∃ x, p.dialect.root (.json a) = .ok x ∧ S x y := by
  obtain ⟨x, y', hx, hy', hxy⟩ | ⟨_, e, _, he⟩ := hS.root_cases h
  · cases hy.symm.trans hy'
    exact ⟨x, hx, hxy⟩
  · cases hy.symm.trans he

end IsLikeness

end ObjectParser

/-! ## Walks over related trees -/

namespace Dialect

variable {ν : Type} {d : Dialect ν} {S : ν → ν → Prop} {a b : ν}

/-- **The nodes of two walks make the same links** one by one, if the children of related
nodes are related in their order. -/
theorem map_link?_preorder (hlink : ∀ a b, S a b → d.link? a = d.link? b)
    (hbelow : ∀ a b, S a b → List.Forall₂ S (d.children a) (d.children b)) (h : S a b) :
    (d.preorder a).map d.link? = (d.preorder b).map d.link? := by
  induction a using d.tree_induction generalizing b with
  | step a ih =>
    have hboth : List.Forall₂ (fun x y =>
        (∀ y, S x y → (d.preorder x).map d.link? = (d.preorder y).map d.link?) ∧ S x y)
        (d.children a) (d.children b) :=
      (List.forall₂_and_left _ _).2 ⟨fun child hchild _ => ih child hchild, hbelow a b h⟩
    have hchildren : ((d.children a).map fun node => (d.preorder node).map d.link?) =
        (d.children b).map fun node => (d.preorder node).map d.link? :=
      map_eq_map_of_forall₂ (hboth.imp fun _ y hxy => hxy.1 y hxy.2)
    rw [d.preorder_eq a, d.preorder_eq b, List.map_cons, List.map_cons, hlink a b h,
      List.map_flatMap, List.map_flatMap, List.flatMap_def, List.flatMap_def, hchildren]

/-- **The nodes of two walks make the same links** in some order, if the children of related
nodes are related in some order. -/
theorem map_link?_preorder_perm (hlink : ∀ a b, S a b → d.link? a = d.link? b)
    (hbelow : ∀ a b, S a b →
      ∃ between, List.Forall₂ S (d.children a) between ∧ between.Perm (d.children b)) (h : S a b) :
    ((d.preorder a).map d.link?).Perm ((d.preorder b).map d.link?) := by
  induction a using d.tree_induction generalizing b with
  | step a ih =>
    obtain ⟨between, hrelated, hperm⟩ := hbelow a b h
    have hboth : List.Forall₂ (fun x y =>
        (∀ y, S x y → ((d.preorder x).map d.link?).Perm ((d.preorder y).map d.link?)) ∧ S x y)
        (d.children a) between :=
      (List.forall₂_and_left _ _).2 ⟨fun child hchild _ => ih child hchild, hrelated⟩
    have hchildren := hboth.imp fun _ y hxy => hxy.1 y hxy.2
    have hflat : (((d.children a).map fun node => (d.preorder node).map d.link?).flatten).Perm
        ((between.map fun node => (d.preorder node).map d.link?).flatten) := by
      apply List.Perm.flatten_congr
      rwa [List.forall₂_map_left_iff, List.forall₂_map_right_iff]
    rw [d.preorder_eq a, d.preorder_eq b, List.map_cons, List.map_cons, hlink a b h,
      List.map_flatMap, List.map_flatMap, List.flatMap_def]
    exact (hflat.trans (hperm.flatMap_right _)).cons _

/-! ## Surveys of related trees -/

/-- What nodes contribute is determined by the links that they make. -/
theorem gather_eq_of_map_link? {nodes nodes' : List ν}
    (h : nodes.map d.link? = nodes'.map d.link?) : d.gather nodes = d.gather nodes' := by
  induction nodes generalizing nodes' with
  | nil => rw [List.map_eq_nil_iff.1 h.symm]
  | cons node rest ih =>
    obtain ⟨node', rest', rfl, hnode, hrest⟩ := List.map_eq_cons_iff.1 h.symm
    have hcontribution : d.contribution node = d.contribution node' := by
      rw [contribution, contribution, hnode]
    rw [gather, gather, hcontribution, ih hrest.symm]

/-- A survey is known from what the nodes contribute in preorder, so trees that contribute the
same have the same survey. -/
theorem survey_eq_of_map_link? (file : Json) {subject subject' : Subject}
    (ha : d.root subject = .ok a) (hb : d.root subject' = .ok b)
    (h : (d.preorder a).map d.link? = (d.preorder b).map d.link?) :
    d.survey file subject = d.survey file subject' := by
  rw [d.survey_eq_gather file ha, d.survey_eq_gather file hb, gather_eq_of_map_link? h]

end Dialect

end ModuleLinks

/-
When the survey of an object tree fails.

A tree comes from outside, so any field of any node can hold any value. Most
questions of a survey have an answer for every value: what is no text is no
name, what is no list has no specifiers. Three questions have none for some
values, and these end the survey. The attributes of a declaration are visited
one by one, which a number does not allow; the arguments of a call are asked for
the first, which a number does not have; and an object has members but no first
one.

Whether such a question is asked at all depends on the questions before it,
since a malformed declaration is skipped. `Aborts` says for a node, field by
field, that it comes to such a question, and `survey_outcome` says that a survey
fails exactly if there is such a node, with the failure of the first in
preorder.

The proof goes through what a part of a visit **aborts** with: a report that a
declaration is malformed aborts nothing, so in a sequence only the parts that
can abort remain.
-/
import Mathlib.Tactic.Tauto
import ModuleLinks.Proofs.ObjectEncoding
import ModuleLinks.Proofs.Outcome

set_option autoImplicit false

namespace ModuleLinks

/-! ## What a part of a visit aborts with -/

namespace Outcome

variable {α β : Type}

/-- The failure with which a part of a visit ends the survey: any but a malformed
declaration. -/
def abort? : Except Failure α → Option Failure
  | .ok _ => none
  | .error (.malformedDeclaration _ _) => none
  | .error e => some e

@[simp] theorem abort?_ok (a : α) : abort? (.ok a) = none := rfl

/-- What is made of an answer does not matter for the failure. -/
theorem abort?_map (x : Except Failure α) (f : α → β) : abort? (x.map f) = abort? x := by
  cases x with
  | ok a => rfl
  | error e => cases e <;> rfl

/-- Two parts of a visit abort if the first one does, or the second one where the first has an
answer. -/
theorem abort?_bind {x : Except Failure α} {f : α → Except Failure β} {e : Failure} :
    abort? (x >>= f) = some e
      ↔ abort? x = some e ∨ ∃ a, x = .ok a ∧ abort? (f a) = some e := by
  cases x with
  | ok a => simp [bind, Except.bind]
  | error e' => cases e' <;> simp [bind, Except.bind, abort?]

/-- Where the first part does not abort, the second one alone can. -/
theorem abort?_bind_of_none {x : Except Failure α} {f : α → Except Failure β} {e : Failure}
    (hx : abort? x = none) :
    abort? (x >>= f) = some e ↔ ∃ a, x = .ok a ∧ abort? (f a) = some e := by
  rw [abort?_bind, hx]
  simp

/-- Two parts that do not abort do not abort together. -/
theorem abort?_bind_eq_none {x : Except Failure α} {f : α → Except Failure β}
    (hx : abort? x = none) (hf : ∀ a, abort? (f a) = none) : abort? (x >>= f) = none := by
  rw [Option.eq_none_iff_forall_ne_some]
  intro e h
  obtain ⟨a, _, ha⟩ := (abort?_bind_of_none hx).1 h
  simp [hf a] at ha

theorem abort?_mapM {f : α → Except Failure β} {as : List α} (hf : ∀ a, abort? (f a) = none) :
    abort? (as.mapM f) = none := by
  induction as with
  | nil => rfl
  | cons a as ih =>
    rw [List.mapM_cons]
    exact abort?_bind_eq_none (hf a) fun b => abort?_bind_eq_none ih fun bs => rfl

end Outcome

open Outcome

namespace Json

/-- A number other than zero, or `true`, which counts as one. -/
def isNonzero : Json → Bool
  | .bool b => b
  | .int n => n != 0
  | .float x => !x.isZero
  | _ => false

/-- An object with a field. -/
def isNonemptyObject : Json → Bool
  | .obj (_ :: _) => true
  | _ => false

/-- What is not trivial and has no members is a number. -/
theorem elements?_eq_none_iff {j : Json} (h : j.isTrivial = false) :
    j.elements? = none ↔ j.isNonzero = true := by
  cases j with
  | bool b => simpa [isTrivial, elements?, isNonzero] using h
  | int n => simpa [isTrivial, elements?, isNonzero] using h
  | float x => simpa [isTrivial, elements?, isNonzero] using h
  | _ => simp_all [isTrivial, elements?, isNonzero]

/-- A node has one type. -/
theorem hasType_unique {node : Json} {type other : String} (h : node.hasType type = true)
    (hother : node.hasType other = true) : type = other := by
  rw [hasType_iff] at h hother
  exact Text.ofString_inj.1 (Option.some.inj (h.symm.trans hother))

theorem hasType_eq_false {node : Json} {type other : String} (h : node.hasType type = true)
    (hne : other ≠ type) : node.hasType other = false := by
  rw [Bool.eq_false_iff]
  exact fun hother => hne (hasType_unique hother h)

/-- A number other than zero is not trivial, so it is not taken for a missing value. -/
theorem isTrivial_of_isNonzero {j : Json} (h : j.isNonzero = true) : j.isTrivial = false := by
  cases j <;> simp_all [isNonzero, isTrivial]

end Json

namespace Dialect

variable {ν : Type}

/-- A visit ends the survey with what the link of the node aborts with. -/
theorem visitFailure?_eq (d : Dialect ν) (node : ν) :
    d.visitFailure? node = abort? (d.link? node) := by
  unfold visitFailure?
  cases d.link? node with
  | ok link => rfl
  | error e => cases e <;> rfl

end Dialect

/-! ## The parts of a visit -/

namespace ObjectDialect

variable {d : ObjectDialect} {node spec : Json} {e : Failure}

/-- The names that a specifier can have, in the order in which they are asked for. -/
def names (d : ObjectDialect) (spec : Json) : List Json :=
  [d.spelledName (spec.field "imported"), d.spelledName (d.taken spec),
    d.spelledName (spec.field "local"), d.spelledName (d.exported spec)]

/-- **A specifier resolves to a tag** if it binds the default export or the whole
module, or has one of the names. -/
def HasTag (d : ObjectDialect) (spec : Json) : Prop :=
  spec.reach ≠ .oneName ∨ ∃ name ∈ d.names spec, name.isNull = false

/-- The first name is null only if all are. -/
theorem exists_firstName (d : ObjectDialect) (spec : Json) :
    ∃ name, d.toDialect.firstName spec = .ok name
      ∧ (name.isNull = false ↔ ∃ other ∈ d.names spec, other.isNull = false) := by
  simp only [names, List.mem_cons, List.not_mem_nil, or_false, exists_eq_or_imp, exists_eq_left,
    Dialect.firstName, toDialect, bind, Except.bind, pure, Except.pure]
  by_cases himported : (d.spelledName (spec.field "imported")).isNull = false
  · exact ⟨_, if_pos (by simp [himported]), by simp [himported]⟩
  · rw [if_neg (by simp [himported])]
    by_cases htaken : (d.spelledName (d.taken spec)).isNull = false
    · exact ⟨_, if_pos (by simp [htaken]), by simp [htaken]⟩
    · rw [if_neg (by simp [htaken])]
      by_cases hbound : (d.spelledName (spec.field "local")).isNull = false
      · exact ⟨_, if_pos (by simp [hbound]), by simp [hbound]⟩
      · exact ⟨_, if_neg (by simp [hbound]), by simp [himported, htaken, hbound]⟩

/-- The tag of a specifier, once its name is known: the default export first, then the whole
module, then the name. -/
theorem tag_eq {name : Json} (h : d.toDialect.firstName spec = .ok name) :
    d.toDialect.tag spec
      = if spec.reach = .defaultExport then .ok Link.defaultTag
        else if (d.spelledName (d.exported spec)).isText "default" then .ok Link.defaultTag
        else if spec.reach = .wholeModule then .ok Link.namespaceTag
        else if name.isNull then
          .error (d.toDialect.malformed spec "specifier has no resolvable name")
        else .ok name := by
  rw [Dialect.tag, h]
  rfl

/-- **A specifier has a tag, or is malformed.** -/
theorem tag_cases (d : ObjectDialect) (spec : Json) :
    (d.HasTag spec ∧ ∃ tag, d.toDialect.tag spec = .ok tag)
      ∨ (¬d.HasTag spec ∧ ∃ type reason,
          d.toDialect.tag spec = .error (.malformedDeclaration type reason)) := by
  obtain ⟨name, hname, hnull⟩ := d.exists_firstName spec
  rw [tag_eq hname, HasTag]
  by_cases hdefault : spec.reach = .defaultExport
  · rw [if_pos hdefault]
    exact .inl ⟨.inl (by simp [hdefault]), _, rfl⟩
  rw [if_neg hdefault]
  by_cases htext : (d.spelledName (d.exported spec)).isText "default" = true
  · -- A name that is a text is not null.
    rw [if_pos htext]
    refine .inl ⟨.inr ⟨d.spelledName (d.exported spec), by simp [names], ?_⟩, _, rfl⟩
    cases hexported : d.spelledName (d.exported spec) <;> simp_all [Json.isText, Json.isNull]
  rw [if_neg htext]
  by_cases hwhole : spec.reach = .wholeModule
  · rw [if_pos hwhole]
    exact .inl ⟨.inl (by simp [hwhole]), _, rfl⟩
  have hone : spec.reach = .oneName := by
    cases hreach : spec.reach <;> simp_all
  rw [if_neg hwhole]
  by_cases hnone : name.isNull = true
  · rw [if_pos hnone]
    exact .inr ⟨by simp_all, _, _, rfl⟩
  · rw [if_neg hnone]
    exact .inl ⟨.inr (hnull.1 (by simpa using hnone)), _, rfl⟩

/-- The condition for a tag is exact. -/
theorem tag_eq_ok_iff : (∃ tag, d.toDialect.tag spec = .ok tag) ↔ d.HasTag spec := by
  rcases d.tag_cases spec with ⟨hhas, htag⟩ | ⟨hhas, type, reason, htag⟩
  · exact iff_of_true htag hhas
  · exact iff_of_false (by simp [htag]) hhas

/-- A specifier without a tag is malformed, which ends no survey. -/
theorem abort?_tag (d : ObjectDialect) (spec : Json) : abort? (d.toDialect.tag spec) = none := by
  rcases d.tag_cases spec with ⟨_, tag, htag⟩ | ⟨_, type, reason, htag⟩
  · rw [htag]
    rfl
  · rw [htag]
    rfl

theorem abort?_tags (d : ObjectDialect) (node : Json) :
    abort? (d.toDialect.tags node) = none := by
  unfold Dialect.tags
  split
  · rfl
  · exact abort?_mapM d.abort?_tag

/-- A declaration has tags if all its specifiers do. -/
theorem tags_eq_ok_iff :
    (∃ tags, d.toDialect.tags node = .ok tags) ↔ ∀ spec ∈ node.specifiers, d.HasTag spec := by
  have hspecifiers : node.specifiers = d.toDialect.specifiers node := rfl
  simp only [hspecifiers, ← tag_eq_ok_iff, ← exists_mapM_eq_ok]
  unfold Dialect.tags
  split
  · next hnone => simp [hnone, pure, Except.pure]
  · rfl

/-! ## Declarations -/

/-- The source of a declaration: a string with something in it, or a report that the node is
malformed. -/
theorem requiredSource_eq (d : ObjectDialect) (node : Json) :
    d.toDialect.requiredSource node
      = match d.literal? (node.field "source") with
        | some (c :: rest) => .ok (c :: rest)
        | _ => .error (d.toDialect.malformed node "missing string source") := by
  have hsource : d.toDialect.source? node = .ok (d.literal? (node.field "source")) := rfl
  rw [Dialect.requiredSource, hsource]
  rfl

theorem abort?_requiredSource (d : ObjectDialect) (node : Json) :
    abort? (d.toDialect.requiredSource node) = none := by
  rw [requiredSource_eq]
  split
  · rfl
  · rfl

/-- The source is a string literal that is not empty. -/
def HasSourceText (d : ObjectDialect) (node : Json) : Prop :=
  ∃ t, t ≠ [] ∧ d.literal? (node.field "source") = some t

/-- A declaration has a source exactly if there is a text for it. -/
theorem requiredSource_eq_ok_iff :
    (∃ t, d.toDialect.requiredSource node = .ok t) ↔ d.HasSourceText node := by
  rw [requiredSource_eq, HasSourceText]
  split
  · next c rest h => exact iff_of_true ⟨_, rfl⟩ ⟨c :: rest, by simp, h⟩
  · next hne =>
    refine iff_of_false (by simp) ?_
    rintro ⟨t, ht, hliteral⟩
    obtain ⟨c, rest, rfl⟩ := List.exists_cons_of_ne_nil ht
    exact hne c rest hliteral

/-- **The type that a declaration asserts** is not found where its attributes are
a number. -/
theorem abort?_assertion? :
    abort? (d.toDialect.assertion? node) = some e
      ↔ (d.attributes node).isNonzero = true ∧ e = .notEnumerable := by
  show abort? (d.assertion? node) = some e ↔ _
  unfold assertion?
  by_cases htrivial : (d.attributes node).isTrivial = true
  · have hnot : ¬(d.attributes node).isNonzero = true := fun h => by
      simp [Json.isTrivial_of_isNonzero h] at htrivial
    simp [htrivial, hnot]
  · simp only [htrivial, Bool.false_eq_true, if_false, abort?_map, Json.elements]
    rw [← Json.elements?_eq_none_iff (by simpa using htrivial)]
    cases (d.attributes node).elements? with
    | some members => simp
    | none => simp [abort?, eq_comm]

/-- A declaration with tags aborts for its attributes alone, and only if it gets past its source.
-/
theorem abort?_linkWith (tags : List Json) :
    abort? (d.toDialect.linkWith node tags) = some e
      ↔ d.HasSourceText node ∧ (d.attributes node).isNonzero = true ∧ e = .notEnumerable := by
  rw [Dialect.linkWith, abort?_bind_of_none (d.abort?_requiredSource node),
    ← requiredSource_eq_ok_iff, ← abort?_assertion?, ← exists_and_right]
  apply exists_congr
  intro t
  -- Behind the assertion nothing is left that could abort.
  rw [abort?_bind]
  simp [pure, Except.pure]

/-- An import aborts for its attributes alone, and only if it gets past its specifiers and its
source. -/
theorem abort?_importLink :
    abort? (d.toDialect.importLink node) = some e
      ↔ (∀ spec ∈ node.specifiers, d.HasTag spec)
        ∧ d.HasSourceText node ∧ (d.attributes node).isNonzero = true ∧ e = .notEnumerable := by
  rw [Dialect.importLink, abort?_bind_of_none (d.abort?_tags node), ← tags_eq_ok_iff,
    ← exists_and_right]
  simp only [abort?_linkWith]

/-! ## Dynamic imports -/

/-- An argument is a text or it is computed, and aborts in neither case. -/
theorem abort?_dynamicSource (d : ObjectDialect) (node argument : Json) :
    abort? (d.toDialect.dynamicSource node argument) = none := by
  have hliteral : d.toDialect.literal? argument = .ok (d.literal? argument) := rfl
  rw [Dialect.dynamicSource, hliteral]
  rcases d.literal? argument with _ | _ | ⟨c, rest⟩
  · rfl
  · rfl
  · rfl

/-- **A dynamic import aborts** where its argument cannot be asked for. -/
theorem abort?_dynamicLink? :
    abort? (d.toDialect.dynamicLink? node) = some e
      ↔ d.isDynamicImport node = true ∧ abort? (d.importArgument node) = some e := by
  have hdynamic : d.toDialect.isDynamicImport node = d.isDynamicImport node := rfl
  have hargument : abort? (d.toDialect.importArgument? node) = abort? (d.importArgument node) :=
    abort?_map _ _
  rw [Dialect.dynamicLink?, hdynamic]
  by_cases h : d.isDynamicImport node = true
  · -- With its argument at hand, the import is malformed or makes a link.
    simp only [h, Bool.not_true, Bool.false_eq_true, if_false, true_and]
    show abort? (d.toDialect.importArgument? node >>= _) = some e ↔ _
    rw [abort?_bind, hargument, or_iff_left]
    rintro ⟨argument?, _, hrest⟩
    cases argument? with
    | none => cases hrest
    | some argument =>
      have hnone := abort?_bind_eq_none (d.abort?_dynamicSource node argument) fun source =>
        abort?_ok (some { specifiers := [Link.defaultTag], source : Link })
      exact absurd (hnone.symm.trans hrest) (by simp)
  · simp [h, pure, Except.pure]

/-! ## Nodes -/

/-- **What a visit aborts with**, by the form of the node. -/
theorem visitFailure?_eq_some_iff :
    d.toDialect.visitFailure? node = some e
      ↔ match d.form? node with
        | none => False
        | some .importDeclaration =>
          (∀ spec ∈ node.specifiers, d.HasTag spec)
            ∧ d.HasSourceText node ∧ (d.attributes node).isNonzero = true ∧ e = .notEnumerable
        | some .namedExport =>
          (node.field "source").isNull = false ∧ (∀ spec ∈ node.specifiers, d.HasTag spec)
            ∧ d.HasSourceText node ∧ (d.attributes node).isNonzero = true ∧ e = .notEnumerable
        | some .wholeExport =>
          (node.field "source").isNull = false
            ∧ d.HasSourceText node ∧ (d.attributes node).isNonzero = true ∧ e = .notEnumerable
        | some .importCall | some .importExpression =>
          d.isDynamicImport node = true ∧ abort? (d.importArgument node) = some e := by
  have hform : d.toDialect.form? node = d.form? node := rfl
  have hsource : d.toDialect.hasSource node = !(node.field "source").isNull := rfl
  rw [Dialect.visitFailure?_eq, Dialect.link?, hform]
  cases d.form? node with
  | none => simp
  | some form =>
    cases form with
    | importDeclaration => rw [abort?_map, abort?_importLink]
    | namedExport =>
      rw [Dialect.namedExportLink?, hsource]
      by_cases h : (node.field "source").isNull = true
      · simp [h]
      · simp [h, abort?_map, abort?_importLink]
    | wholeExport =>
      rw [Dialect.wholeExportLink?, hsource]
      by_cases h : (node.field "source").isNull = true
      · simp [h]
      · simp [h, abort?_map, abort?_linkWith]
    | importCall => exact abort?_dynamicLink?
    | importExpression => exact abort?_dynamicLink?

/-- The form of a node goes with its type. -/
theorem form?_eq_some_iff (hforms : (d.forms.map Prod.fst).Nodup) {form : Form} :
    d.form? node = some form ↔ ∃ type, (type, form) ∈ d.forms ∧ node.hasType type = true := by
  rw [form?, Option.map_eq_some_iff]
  constructor
  · rintro ⟨⟨type, _⟩, hfind, rfl⟩
    refine ⟨type, List.mem_of_find?_eq_some hfind, ?_⟩
    simpa using List.find?_some hfind
  · rintro ⟨type, hmem, htype⟩
    have hfound : (d.forms.find? fun entry => node.hasType entry.1).isSome = true :=
      List.find?_isSome.2 ⟨(type, form), hmem, htype⟩
    obtain ⟨⟨other, _⟩, hfind⟩ := Option.isSome_iff_exists.1 hfound
    -- The entry that was found has the type of the node too, and no two entries share a type.
    have hother : node.hasType other = true := by simpa using List.find?_some hfind
    obtain rfl : other = type := Json.hasType_unique hother htype
    have hsame := List.inj_on_of_nodup_map hforms (List.mem_of_find?_eq_some hfind) hmem rfl
    exact ⟨_, hfind, congrArg Prod.snd hsame⟩

end ObjectDialect

/-! ## Calls of the import keyword -/

/-- Arguments that are no list, no text and no object with a member have no first
member because they are empty, or because they are a number. -/
theorem abort?_notIndexable {arguments : Json} {e : Failure}
    (harr : ∀ j rest, arguments ≠ .arr (j :: rest))
    (hstr : ∀ c rest, arguments ≠ .str (c :: rest))
    (hobj : ∀ field rest, arguments ≠ .obj (field :: rest)) :
    abort? (if arguments.isTrivial then .ok Json.null else .error .notIndexable) = some e
      ↔ arguments.isNonzero = true ∧ e = .notIndexable
        ∨ arguments.isNonemptyObject = true ∧ e = .notOrdered := by
  have hempty : arguments.isNonemptyObject = false := by
    unfold Json.isNonemptyObject
    split
    · next field rest => exact absurd rfl (hobj field rest)
    · rfl
  have htrivial : arguments.isTrivial = !arguments.isNonzero := by
    cases arguments with
    | arr items => cases items <;> simp_all [Json.isTrivial, Json.isNonzero]
    | str t => cases t <;> simp_all [Json.isTrivial, Json.isNonzero]
    | obj fields => cases fields <;> simp_all [Json.isTrivial, Json.isNonzero]
    | _ => simp [Json.isTrivial, Json.isNonzero, bne]
  rw [hempty, htrivial]
  by_cases h : arguments.isNonzero = true
  · simp [h, abort?, eq_comm]
  · simp [h]

/-- **Arguments have a first one** unless they are a number or an object with a field. -/
theorem Babel.abort?_firstArgument {arguments : Json} {e : Failure} :
    abort? (Babel.firstArgument arguments) = some e
      ↔ arguments.isNonzero = true ∧ e = .notIndexable
        ∨ arguments.isNonemptyObject = true ∧ e = .notOrdered := by
  unfold Babel.firstArgument
  split
  · simp [Json.isNonzero, Json.isNonemptyObject]
  · simp [Json.isNonzero, Json.isNonemptyObject]
  · simp [Json.isNonzero, Json.isNonemptyObject, abort?, eq_comm]
  · next harr hstr hobj => exact abort?_notIndexable harr hstr hobj

/-- The same where arguments are wrapped: the wrapping is looked into only once there is one. -/
theorem Swc.abort?_firstArgument {arguments : Json} {e : Failure} :
    abort? (Swc.firstArgument arguments) = some e
      ↔ arguments.isNonzero = true ∧ e = .notIndexable
        ∨ arguments.isNonemptyObject = true ∧ e = .notOrdered := by
  unfold Swc.firstArgument
  split
  · simp [Json.isNonzero, Json.isNonemptyObject]
  · simp [Json.isNonzero, Json.isNonemptyObject]
  · simp [Json.isNonzero, Json.isNonemptyObject, abort?, eq_comm]
  · next harr hstr hobj => exact abort?_notIndexable harr hstr hobj

namespace ObjectParser

/-- **The attributes of a declaration**, as each parser keeps them. -/
def attributeCollection : ObjectParser → Json → Json
  | babel, node =>
    if (node.field "attributes").isTrivial then node.field "assertions"
    else node.field "attributes"
  | oxc, node =>
    if (node.field "attributes").isNull then (node.field "withClause").field "withEntries"
    else node.field "attributes"
  | swc, node =>
    (if (node.field "asserts").isTrivial then node.field "with"
      else node.field "asserts").field "properties"

theorem attributes_dialect (p : ObjectParser) (node : Json) :
    p.dialect.attributes node = p.attributeCollection node := by
  cases p with
  | babel => rfl
  | oxc => rfl
  | swc => rfl

/-- **A declaration that refers to another module** and is not malformed up to its
source. -/
inductive Declares (p : ObjectParser) (node : Json) : Prop where
  | importing (htype : node.hasType "ImportDeclaration" = true)
    (htags : ∀ spec ∈ node.specifiers, p.dialect.HasTag spec)
  | exporting (htype : node.hasType "ExportNamedDeclaration" = true)
    (hsource : (node.field "source").isNull = false)
    (htags : ∀ spec ∈ node.specifiers, p.dialect.HasTag spec)
  | exportingAll (htype : node.hasType "ExportAllDeclaration" = true)
    (hsource : (node.field "source").isNull = false)

/-- **A call of the import keyword**, which one of the parsers writes in another
way. -/
structure IsImportCall (p : ObjectParser) (node : Json) : Prop where
  writesCalls : p ≠ oxc
  type : node.hasType "CallExpression" = true
  callee : (node.field "callee").hasType "Import" = true

/-- **A node that ends a survey**, and the failure with which it does. -/
inductive Aborts (p : ObjectParser) (node : Json) : Failure → Prop where
  /-- A declaration with a source, whose attributes are a number. -/
  | attributes (h : p.Declares node) (hsource : p.dialect.HasSourceText node)
    (hnumber : (p.attributeCollection node).isNonzero = true) : Aborts p node .notEnumerable
  /-- A dynamic import whose arguments are a number. -/
  | argumentsNumber (h : p.IsImportCall node)
    (hnumber : (node.field "arguments").isNonzero = true) : Aborts p node .notIndexable
  /-- A dynamic import whose arguments are an object. -/
  | argumentsObject (h : p.IsImportCall node)
    (hobject : (node.field "arguments").isNonemptyObject = true) : Aborts p node .notOrdered

/-- No dialect lists a type twice. -/
theorem nodup_forms (p : ObjectParser) : (p.dialect.forms.map Prod.fst).Nodup := by
  cases p <;> decide

variable {p : ObjectParser} {node : Json} {e : Failure}

/-- So the form of a node is the one listed with its type. -/
theorem form?_eq_some {form : Form} :
    p.dialect.form? node = some form
      ↔ ∃ type, (type, form) ∈ p.dialect.forms ∧ node.hasType type = true :=
  ObjectDialect.form?_eq_some_iff p.nodup_forms

/-- A call is a dynamic import if its callee is the keyword. -/
theorem isDynamicImport_call (hp : p ≠ oxc) (h : node.hasType "CallExpression" = true) :
    p.dialect.isDynamicImport node = (node.field "callee").hasType "Import" := by
  have hexpression : node.hasType "ImportExpression" = false := by
    rw [Bool.eq_false_iff]
    exact fun hother => absurd (Json.hasType_unique h hother) (by decide)
  cases p with
  | babel =>
    show Babel.isDynamicImport node = _
    simp [Babel.isDynamicImport, hexpression, h]
  | oxc => exact absurd rfl hp
  | swc =>
    show Swc.isDynamicImport node = _
    simp [Swc.isDynamicImport, h]

/-- The argument of a call is the first of its arguments, and aborts as that does. -/
theorem abort?_importArgument_call (hp : p ≠ oxc) (h : node.hasType "CallExpression" = true) :
    abort? (p.dialect.importArgument node) = some e
      ↔ (node.field "arguments").isNonzero = true ∧ e = .notIndexable
        ∨ (node.field "arguments").isNonemptyObject = true ∧ e = .notOrdered := by
  have hobject := Json.isObject_of_hasType h
  cases p with
  | babel =>
    have hexpression : ¬node.hasType "ImportExpression" = true := fun hother =>
      absurd (Json.hasType_unique h hother) (by decide)
    show abort? (Babel.importArgument node) = some e ↔ _
    rw [Babel.importArgument, if_neg hexpression, if_pos hobject, Babel.abort?_firstArgument]
  | oxc => exact absurd rfl hp
  | swc =>
    show abort? (Swc.importArgument node) = some e ↔ _
    rw [Swc.importArgument, if_pos hobject, Swc.abort?_firstArgument]

/-- An import expression has its argument under the name of a field. -/
theorem abort?_importArgument_expression (hp : p ≠ swc)
    (h : node.hasType "ImportExpression" = true) :
    abort? (p.dialect.importArgument node) = none := by
  cases p with
  | babel =>
    show abort? (Babel.importArgument node) = none
    rw [Babel.importArgument, if_pos h]
    rfl
  | oxc =>
    show abort? (Oxc.importArgument node) = none
    rw [Oxc.importArgument, if_pos (Json.isObject_of_hasType h)]
    rfl
  | swc => exact absurd rfl hp

/-- **The type that goes with a form.** Two of the forms are not written by all
parsers. -/
theorem mem_forms {type : String} {form : Form} :
    (type, form) ∈ p.dialect.forms
      ↔ match form with
        | .importDeclaration => type = "ImportDeclaration"
        | .namedExport => type = "ExportNamedDeclaration"
        | .wholeExport => type = "ExportAllDeclaration"
        | .importCall => p ≠ oxc ∧ type = "CallExpression"
        | .importExpression => p ≠ swc ∧ type = "ImportExpression" := by
  cases p with
  | babel => cases form <;> simp [dialect, ModuleLinks.babel]
  | oxc => cases form <;> simp [dialect, ModuleLinks.oxc]
  | swc => cases form <;> simp [dialect, ModuleLinks.swc]

/-- What ends a survey is one of the nodes described, by the form of the node. -/
theorem Aborts.of_visitFailure? (h : p.dialect.toDialect.visitFailure? node = some e) :
    p.Aborts node e := by
  rw [ObjectDialect.visitFailure?_eq_some_iff, attributes_dialect] at h
  cases hform : p.dialect.form? node with
  | none => simp [hform] at h
  | some form =>
    obtain ⟨type, hmem, htype⟩ := form?_eq_some.1 hform
    rw [mem_forms] at hmem
    rw [hform] at h
    cases form with
    | importDeclaration =>
      obtain rfl := hmem
      obtain ⟨htags, hsource, hnumber, rfl⟩ := h
      exact .attributes (.importing htype htags) hsource hnumber
    | namedExport =>
      obtain rfl := hmem
      obtain ⟨hfield, htags, hsource, hnumber, rfl⟩ := h
      exact .attributes (.exporting htype hfield htags) hsource hnumber
    | wholeExport =>
      obtain rfl := hmem
      obtain ⟨hfield, hsource, hnumber, rfl⟩ := h
      exact .attributes (.exportingAll htype hfield) hsource hnumber
    | importCall =>
      obtain ⟨hp, rfl⟩ := hmem
      obtain ⟨hcallee, hargument⟩ := h
      rw [isDynamicImport_call hp htype] at hcallee
      rcases (abort?_importArgument_call hp htype).1 hargument with ⟨hnumber, rfl⟩ | ⟨hobject, rfl⟩
      · exact .argumentsNumber ⟨hp, htype, hcallee⟩ hnumber
      · exact .argumentsObject ⟨hp, htype, hcallee⟩ hobject
    | importExpression =>
      obtain ⟨hp, rfl⟩ := hmem
      simp [abort?_importArgument_expression hp htype] at h

/-- Each of the nodes described ends the survey. -/
theorem Aborts.visitFailure? (h : p.Aborts node e) :
    p.dialect.toDialect.visitFailure? node = some e := by
  have hform : ∀ (form : Form) {type : String}, (type, form) ∈ p.dialect.forms →
      node.hasType type = true → p.dialect.form? node = some form :=
    fun _ _ hmem htype => form?_eq_some.2 ⟨_, hmem, htype⟩
  have hcall : p.IsImportCall node → p.dialect.form? node = some .importCall := fun hcall =>
    hform .importCall (mem_forms.2 ⟨hcall.writesCalls, rfl⟩) hcall.type
  have hdynamic : p.IsImportCall node → p.dialect.isDynamicImport node = true := fun hcall =>
    (isDynamicImport_call hcall.writesCalls hcall.type).trans hcall.callee
  rw [ObjectDialect.visitFailure?_eq_some_iff, attributes_dialect]
  cases h with
  | attributes hdeclares hsource hnumber =>
    cases hdeclares with
    | importing htype htags =>
      rw [hform .importDeclaration (mem_forms.2 rfl) htype]
      exact ⟨htags, hsource, hnumber, rfl⟩
    | exporting htype hfield htags =>
      rw [hform .namedExport (mem_forms.2 rfl) htype]
      exact ⟨hfield, htags, hsource, hnumber, rfl⟩
    | exportingAll htype hfield =>
      rw [hform .wholeExport (mem_forms.2 rfl) htype]
      exact ⟨hfield, hsource, hnumber, rfl⟩
  | argumentsNumber hnode hnumber =>
    rw [hcall hnode]
    exact ⟨hdynamic hnode,
      (abort?_importArgument_call hnode.writesCalls hnode.type).2 (.inl ⟨hnumber, rfl⟩)⟩
  | argumentsObject hnode hobject =>
    rw [hcall hnode]
    exact ⟨hdynamic hnode,
      (abort?_importArgument_call hnode.writesCalls hnode.type).2 (.inr ⟨hobject, rfl⟩)⟩

/-- **A visit ends the survey** exactly at the nodes that are said to do so. -/
theorem visitFailure?_eq_some :
    p.dialect.toDialect.visitFailure? node = some e ↔ p.Aborts node e :=
  ⟨.of_visitFailure?, Aborts.visitFailure?⟩

/-! ## The survey -/

/-- A root is refused in one way only: the tree is not one of the dialect. -/
theorem exists_unsupported_of_root (p : ObjectParser) {subject : Subject}
    (h : p.dialect.root subject = .error e) :
    ∃ dialect reason, e = .unsupportedDialect dialect reason := by
  unfold ObjectDialect.root at h
  split at h
  · dsimp only at h
    split at h
    · exact ⟨_, _, (Except.error.inj h).symm⟩
    · split at h
      · exact ⟨_, _, (Except.error.inj h).symm⟩
      · split at h
        · cases h
        · exact ⟨_, _, (Except.error.inj h).symm⟩
  · exact ⟨_, _, (Except.error.inj h).symm⟩

/-- **The first node that ends a survey**, of the nodes in the order of the
survey, ends it with a failure. -/
def FirstAborts (p : ObjectParser) (nodes : List Json) (e : Failure) : Prop :=
  ∃ before node after, nodes = before ++ node :: after
    ∧ (∀ other ∈ before, ∀ e', ¬p.Aborts other e') ∧ p.Aborts node e

/-- The first failure in a list of nodes is that of the first node that ends the survey. -/
theorem findSome?_visitFailure?_eq_some {nodes : List Json} :
    nodes.findSome? p.dialect.toDialect.visitFailure? = some e ↔ p.FirstAborts nodes e := by
  rw [List.findSome?_eq_some_iff]
  simp only [FirstAborts, ← visitFailure?_eq_some, Option.eq_none_iff_forall_ne_some, ne_eq]
  tauto

/-- Without a root the survey reports that and nothing else, after the record of the beginning. -/
theorem survey_of_root_error (p : ObjectParser) (file : Json) {subject : Subject}
    (h : p.dialect.root subject = .error e) :
    p.dialect.toDialect.survey file subject
      = ⟨[⟨.debug, p.dialect.toDialect.opening file⟩], .error e⟩ := by
  have hroot : p.dialect.toDialect.root subject = .error e := h
  rw [Dialect.survey, hroot]
  rfl

/-- **With a root the survey fails as the first node in preorder says** that ends it. -/
theorem outcome_survey_eq_error (p : ObjectParser) (file : Json) {subject : Subject} {root : Json}
    (h : p.dialect.root subject = .ok root) :
    (p.dialect.toDialect.survey file subject).outcome = .error e
      ↔ p.FirstAborts (p.dialect.toDialect.preorder root) e := by
  rw [p.dialect.toDialect.survey_eq file h, ← findSome?_visitFailure?_eq_some]
  cases (p.dialect.toDialect.preorder root).findSome? p.dialect.toDialect.visitFailure? with
  | none => simp [Dialect.unlessFailed]
  | some other => simp [Dialect.unlessFailed]

theorem FirstAborts.mem {nodes : List Json} (h : p.FirstAborts nodes e) :
    ∃ node ∈ nodes, p.Aborts node e := by
  obtain ⟨before, node, after, rfl, _, hnode⟩ := h
  exact ⟨node, by simp, hnode⟩

/-- Where a node ends a survey, there is a first one. -/
theorem exists_firstAborts {nodes : List Json} :
    (∃ e, p.FirstAborts nodes e) ↔ ∃ node ∈ nodes, ∃ e, p.Aborts node e := by
  constructor
  · rintro ⟨e, h⟩
    obtain ⟨node, hmem, hnode⟩ := h.mem
    exact ⟨node, hmem, e, hnode⟩
  · rintro ⟨node, hmem, e, hnode⟩
    have hsome : (nodes.findSome? p.dialect.toDialect.visitFailure?).isSome = true :=
      List.findSome?_isSome_iff.2 ⟨node, hmem, by rw [hnode.visitFailure?]; rfl⟩
    obtain ⟨first, hfirst⟩ := Option.isSome_iff_exists.1 hsome
    exact ⟨first, findSome?_visitFailure?_eq_some.1 hfirst⟩

/-- **When the survey of a JSON value fails.** A value that is no tree of the dialect is reported
as that, after the record of the beginning. The survey of a tree fails exactly if it comes to a node
that ends it, and it fails as the first such node says. -/
theorem survey_outcome (p : ObjectParser) (file j : Json) :
    ((∃ dialect reason, (p.dialect.toDialect.survey file (.json j)).outcome
          = .error (.unsupportedDialect dialect reason))
        ↔ ∃ e, p.dialect.root (.json j) = .error e)
      ∧ (∀ e, p.dialect.root (.json j) = .error e →
        p.dialect.toDialect.survey file (.json j)
          = ⟨[⟨.debug, p.dialect.toDialect.opening file⟩], .error e⟩)
      ∧ ∀ root, p.dialect.root (.json j) = .ok root →
        ((∃ e, (p.dialect.toDialect.survey file (.json j)).outcome = .error e)
            ↔ ∃ node ∈ p.dialect.toDialect.preorder root, ∃ e, p.Aborts node e)
          ∧ ∀ e, (p.dialect.toDialect.survey file (.json j)).outcome = .error e
            ↔ p.FirstAborts (p.dialect.toDialect.preorder root) e := by
  refine ⟨⟨?_, ?_⟩, fun e => p.survey_of_root_error file, ?_⟩
  · rintro ⟨dialect, reason, h⟩
    cases hroot : p.dialect.root (.json j) with
    | error e => exact ⟨e, rfl⟩
    | ok root =>
      -- None of the nodes that end a survey reports an unsupported dialect.
      obtain ⟨node, _, hnode⟩ := ((p.outcome_survey_eq_error file hroot).1 h).mem
      cases hnode
  · rintro ⟨e, h⟩
    obtain ⟨dialect, reason, rfl⟩ := p.exists_unsupported_of_root h
    exact ⟨dialect, reason, by rw [p.survey_of_root_error file h]⟩
  · intro root h
    refine ⟨?_, fun e => p.outcome_survey_eq_error file h⟩
    simp only [p.outcome_survey_eq_error file h]
    exact exists_firstAborts

/-- An import whose attributes are a number, under the name that older trees have for them. -/
def numberedImport : Json :=
  placedNode "ImportDeclaration" 0
    [("source", placedNode "StringLiteral" 7 [("value", .ofString "./a.js")]),
      ("attributes", .bool false), ("assertions", .int 1)]

/-- A call of the import keyword without arguments. -/
def emptyCall : Json :=
  placedNode "CallExpression" 0 [("callee", placedNode "Import" 0 []), ("arguments", .int 0)]

/-- A program with both. -/
def numberedProgram : Json := placedNode "Program" 0 [("body", .arr [emptyCall, numberedImport])]

theorem numberedImport_mem_preorder :
    numberedImport ∈ babel.dialect.toDialect.preorder numberedProgram := by
  have hchildren : babel.dialect.toDialect.children numberedProgram
      = Json.inOrder ModuleLinks.babel.offset? [emptyCall, numberedImport] := rfl
  rw [Dialect.preorder_eq, List.mem_cons, List.mem_flatMap, hchildren]
  refine .inr ⟨numberedImport, ?_, Dialect.mem_preorder_self _ _⟩
  exact (Json.inOrder_perm _ _).mem_iff.2 (by simp)

/-- An export whose attributes are a number, where the parser with spans has a list of properties. -/
def numberedExport : Json :=
  spannedNode "ExportAllDeclaration" 0
    [("source", spannedNode "StringLiteral" 14 [("value", .ofString "./a.js")]),
      ("with", .obj [(Text.ofString "properties", .int 1)])]

/-- A call of the import keyword whose arguments are an object. -/
def unorderedCall : Json :=
  spannedNode "CallExpression" 40
    [("callee", spannedNode "Import" 40 []), ("arguments", spannedNode "StringLiteral" 47 [])]

/-- A module with both, the later one written first. -/
def spannedModule : Json :=
  spannedNode "Module" 0 [("body", .arr [unorderedCall, numberedExport])]

/-- The export comes first, since it begins before the call. -/
theorem firstAborts_spannedModule :
    swc.FirstAborts (swc.dialect.toDialect.preorder spannedModule) .notEnumerable := by
  have hchildren : swc.dialect.toDialect.children spannedModule
      = [numberedExport, unorderedCall] := by
    show Json.inOrder ModuleLinks.swc.offset? [unorderedCall, numberedExport] = _
    have hcall : ModuleLinks.swc.offset? unorderedCall = some 40 := rfl
    have hexport : ModuleLinks.swc.offset? numberedExport = some 0 := rfl
    rw [Json.inOrder_pair hcall hexport, if_neg (by decide)]
  have hroot : swc.dialect.toDialect.visitFailure? spannedModule = none := by rfl
  have haborts : swc.Aborts numberedExport .notEnumerable :=
    .attributes (.exportingAll rfl rfl) ⟨Text.ofString "./a.js", by decide, rfl⟩ rfl
  rw [Dialect.preorder_eq, hchildren, List.flatMap_cons, Dialect.preorder_eq _ numberedExport]
  refine ⟨[spannedModule], numberedExport, _, rfl, ?_, haborts⟩
  rw [List.forall_mem_singleton]
  intro e he
  rw [he.visitFailure?] at hroot
  cases hroot

theorem survey_outcome_numberedProgram :
    (babel.dialect.root (.json numberedProgram) = .ok numberedProgram
      ∧ babel.Aborts numberedImport .notEnumerable
      ∧ ∃ e, (babel.dialect.toDialect.survey .null (.json numberedProgram)).outcome = .error e)
    ∧ oxc.dialect.toDialect.survey .null (.json numberedImport)
      = ⟨[⟨.debug, oxc.dialect.toDialect.opening .null⟩],
          .error (Dialect.unexpectedRoot "oxc" (.ofString "ImportDeclaration"))⟩
    ∧ swc.dialect.root (.json spannedModule) = .ok spannedModule
    ∧ swc.FirstAborts (swc.dialect.toDialect.preorder spannedModule) .notEnumerable
    ∧ (swc.dialect.toDialect.survey .null (.json spannedModule)).outcome
      = .error .notEnumerable := by
  have haborts : babel.Aborts numberedImport .notEnumerable :=
    .attributes (.importing rfl nofun) ⟨Text.ofString "./a.js", by decide, rfl⟩ rfl
  refine ⟨⟨rfl, haborts, ?_⟩, (survey_outcome oxc .null numberedImport).2.1 _ rfl, rfl,
    firstAborts_spannedModule, ?_⟩
  · exact ((survey_outcome babel .null numberedProgram).2.2 numberedProgram rfl).1.2
      ⟨numberedImport, numberedImport_mem_preorder, .notEnumerable, haborts⟩
  · exact (((survey_outcome swc .null spannedModule).2.2 spannedModule rfl).2 _).2
      firstAborts_spannedModule

end ObjectParser

end ModuleLinks

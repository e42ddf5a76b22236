/-
Import expressions in place of calls of the import keyword.

An option of the Babel parser decides how a dynamic import is written: as a call whose
callee is the keyword, or as an expression of its own, with the argument for its source.
Rewriting every call in a tree as an expression, at any depth, gives the tree that the
parser hands out with the option on.

This file says what the rewriting does to the values, the fields and the children of a
node. A node that is no call keeps its fields, rewritten, and so its children in their
order. An expression has the argument of its call for its only child: the callee is gone.

Main statements: `field_expressed`, `children_expressed` and their counterparts for a
call.
-/
import ModuleLinks.Proofs.Document

set_option autoImplicit false

namespace ModuleLinks

namespace Json

/-! ## The rewriting -/

/-- **A call of the import keyword.** -/
def isImportCall (node : Json) : Bool :=
  node.hasType "CallExpression" && (node.field "callee").hasType "Import"

/-- The fields of a call for which its expression has others. -/
def callKeys : List String := ["type", "callee", "arguments"]

/-- **The fields of the expression** for a call with the given fields. The argument is its
source, and what else the call has stays, its position included. -/
def expressionFields (fields : List (Text × Json)) : List (Text × Json) :=
  (Text.ofString "type", .ofString "ImportExpression")
    :: (((obj fields).field "arguments").items.head?.toList.map (Text.ofString "source", ·)
      ++ fields.filter fun field => !field.1.isOneOf callKeys)

mutual

/-- **The document with an import expression** in place of each call of the import keyword,
at any depth. -/
def expressed : Json → Json
  | .arr items => .arr (expressedItems items)
  | .obj fields =>
    if isImportCall (.obj fields) then .obj (expressionFields (expressedFields fields))
    else .obj (expressedFields fields)
  | j => j

/-- The items of a list, each rewritten. -/
def expressedItems : List Json → List Json
  | [] => []
  | item :: rest => expressed item :: expressedItems rest

/-- The fields of an object, each with its value rewritten. -/
def expressedFields : List (Text × Json) → List (Text × Json)
  | [] => []
  | (key, value) :: rest => (key, expressed value) :: expressedFields rest

end

/-! ## Plain calls -/

/-- The fields of an object; no fields on any other value. -/
def members : Json → List (Text × Json)
  | .obj fields => fields
  | _ => []

/-- The list of no argument or of one, which is an object. -/
def isArgumentList : Json → Bool
  | .arr [] => true
  | .arr [argument] => argument.isObject
  | _ => false

/-- **A call that holds its callee and its argument**, and nothing else that is walked. -/
structure IsPlainCall (call : Json) : Prop where
  /-- No key comes twice in an object. -/
  distinct : (call.members.map Prod.fst).Nodup
  source : (call.field? "source").isNone = true
  arguments : (call.field "arguments").isArgumentList = true
  callee : ∀ field ∈ (call.field "callee").members, field.2.isContainer = true →
    field.1.isOneOf metadataKeys = true
  others : ∀ field ∈ call.members, field.2.isContainer = true →
    field.1.isOneOf ("callee" :: "arguments" :: metadataKeys) = true

instance : DecidablePred IsPlainCall := fun call =>
  decidable_of_iff
    ((call.members.map Prod.fst).Nodup ∧ (call.field? "source").isNone = true
      ∧ (call.field "arguments").isArgumentList = true
      ∧ (∀ field ∈ (call.field "callee").members, field.2.isContainer = true →
        field.1.isOneOf metadataKeys = true)
      ∧ ∀ field ∈ call.members, field.2.isContainer = true →
        field.1.isOneOf ("callee" :: "arguments" :: metadataKeys) = true)
    ⟨fun ⟨hdistinct, hsource, harguments, hcallee, hothers⟩ =>
        ⟨hdistinct, hsource, harguments, hcallee, hothers⟩,
      fun h => ⟨h.distinct, h.source, h.arguments, h.callee, h.others⟩⟩

/-- **A node with texts for names**, and a plain call if it calls the import keyword. -/
structure IsPlain (node : Json) : Prop where
  name : node.hasType "Identifier" = true → (node.field "name").isTextOrNull = true
  value : node.hasType "StringLiteral" = true → (node.field "value").isTextOrNull = true
  call : node.isImportCall = true → node.IsPlainCall

instance : DecidablePred IsPlain := fun node =>
  decidable_of_iff
    ((node.hasType "Identifier" = true → (node.field "name").isTextOrNull = true)
      ∧ (node.hasType "StringLiteral" = true → (node.field "value").isTextOrNull = true)
      ∧ (node.isImportCall = true → node.IsPlainCall))
    ⟨fun ⟨hname, hvalue, hcall⟩ => ⟨hname, hvalue, hcall⟩,
      fun h => ⟨h.name, h.value, h.call⟩⟩

theorem isPlain_null : IsPlain .null := by decide

/-! ## Values after the rewriting -/

/-- The items as a map, which the recursion cannot be written as. -/
theorem expressedItems_eq (items : List Json) : expressedItems items = items.map expressed := by
  induction items with
  | nil => rfl
  | cons item rest ih => rw [expressedItems, List.map_cons, ih]

theorem expressedFields_eq (fields : List (Text × Json)) :
    expressedFields fields = fields.map fun field => (field.1, expressed field.2) := by
  induction fields with
  | nil => rfl
  | cons field rest ih => rw [expressedFields, List.map_cons, ih]

/-- Only lists and objects are rewritten. -/
theorem expressed_leaf {j : Json} (h : j.isContainer = false) : j.expressed = j := by
  cases j with
  | arr _ | obj _ => cases h
  | _ => rw [expressed] <;> exact nofun

/-- A call becomes an expression, after its fields are rewritten. -/
theorem expressed_call {fields : List (Text × Json)} (h : isImportCall (.obj fields) = true) :
    expressed (.obj fields) = .obj (expressionFields (expressedFields fields)) := by
  rw [expressed, if_pos h]

/-- Any other object keeps its fields, rewritten. -/
theorem expressed_of_not {fields : List (Text × Json)}
    (h : isImportCall (.obj fields) = false) :
    expressed (.obj fields) = .obj (expressedFields fields) := by
  rw [expressed, if_neg (by simp [h])]

variable {node : Json}

theorem exists_of_isImportCall (h : node.isImportCall = true) :
    ∃ fields, node = .obj fields := by
  have hobject := isObject_of_hasType (Bool.and_eq_true _ _ ▸ h).1
  cases node with
  | obj fields => exact ⟨fields, rfl⟩
  | _ => cases hobject

/-- **A value stays what it is**: a list a list, an object an object, and any other value is
not changed at all. -/
theorem expressed_cases (j : Json) :
    (j.isContainer = false ∧ j.expressed = j)
      ∨ (∃ items, j = .arr items ∧ j.expressed = .arr (items.map expressed))
      ∨ ∃ fields fields', j = .obj fields ∧ j.expressed = .obj fields' := by
  cases j with
  | arr items => exact .inr (.inl ⟨items, rfl, by rw [expressed, expressedItems_eq]⟩)
  | obj fields =>
    refine .inr (.inr ⟨fields, ?_⟩)
    by_cases h : isImportCall (.obj fields) = true
    · exact ⟨_, rfl, expressed_call h⟩
    · exact ⟨_, rfl, expressed_of_not (by simpa using h)⟩
  | _ => exact .inl ⟨rfl, expressed_leaf rfl⟩

/-- The rewriting keeps the shape of a value, and all that is not inside it. -/
theorem isObject_expressed (j : Json) : j.expressed.isObject = j.isObject := by
  obtain ⟨_, h⟩ | ⟨items, rfl, h⟩ | ⟨fields, _, rfl, h⟩ := j.expressed_cases <;> rw [h] <;> rfl

theorem isContainer_expressed (j : Json) : j.expressed.isContainer = j.isContainer := by
  obtain ⟨_, h⟩ | ⟨items, rfl, h⟩ | ⟨fields, _, rfl, h⟩ := j.expressed_cases <;> rw [h] <;> rfl

theorem isNull_expressed (j : Json) : j.expressed.isNull = j.isNull := by
  obtain ⟨_, h⟩ | ⟨items, rfl, h⟩ | ⟨fields, _, rfl, h⟩ := j.expressed_cases <;> rw [h] <;> rfl

theorem text?_expressed (j : Json) : j.expressed.text? = j.text? := by
  obtain ⟨_, h⟩ | ⟨items, rfl, h⟩ | ⟨fields, _, rfl, h⟩ := j.expressed_cases <;> rw [h] <;> rfl

theorem int?_expressed (j : Json) : j.expressed.int? = j.int? := by
  obtain ⟨_, h⟩ | ⟨items, rfl, h⟩ | ⟨fields, _, rfl, h⟩ := j.expressed_cases <;> rw [h] <;> rfl

theorem items_expressed (j : Json) : j.expressed.items = j.items.map expressed := by
  obtain ⟨hj, h⟩ | ⟨items, rfl, h⟩ | ⟨fields, _, rfl, h⟩ := j.expressed_cases
  · rw [h]
    cases j <;> first | rfl | cases hj
  · rw [h]
    rfl
  · rw [h]
    rfl

theorem expressed_of_isTextOrNull {j : Json} (h : j.isTextOrNull = true) : j.expressed = j := by
  obtain ⟨_, hj⟩ | ⟨items, rfl, _⟩ | ⟨fields, _, rfl, _⟩ := j.expressed_cases
  · exact hj
  · cases h
  · cases h

/-- An object with fields has fields afterwards, so what is trivial stays so. -/
theorem isTrivial_expressed (j : Json) : j.expressed.isTrivial = j.isTrivial := by
  cases j with
  | arr items =>
    rw [expressed, expressedItems_eq]
    cases items <;> rfl
  | obj fields =>
    by_cases h : isImportCall (.obj fields) = true
    · -- A call has a type, so it is not empty, and neither is its expression.
      rw [expressed_call h]
      cases fields with
      | nil => cases h
      | cons field rest => rfl
    · rw [expressed_of_not (by simpa using h), expressedFields_eq]
      cases fields <;> rfl
  | _ => rw [expressed_leaf rfl]

/-! ## Fields after the rewriting -/

/-- The keys stay, so a look-up finds the rewritten value. -/
theorem lookup_expressedFields (fields : List (Text × Json)) (key : Text) :
    (expressedFields fields).lookup key = (fields.lookup key).map expressed := by
  induction fields with
  | nil => rfl
  | cons field rest ih =>
    obtain ⟨name, value⟩ := field
    rw [expressedFields, List.lookup_cons, List.lookup_cons]
    cases key == name with
    | true => rfl
    | false => exact ih

/-- What is left of an object keeps the values under its keys. -/
theorem lookup_filter {fields : List (Text × Json)} {p : Text → Bool} {key : Text}
    (hkey : p key = true) :
    (fields.filter fun field => p field.1).lookup key = fields.lookup key := by
  induction fields with
  | nil => rfl
  | cons field rest ih =>
    obtain ⟨name, value⟩ := field
    by_cases hname : key = name
    · subst hname
      simp [hkey]
    · have hne : (key == name) = false := by simpa using hname
      by_cases hkeep : p name = true
      · simp [hkeep, List.lookup_cons, hne, ih]
      · simp [hkeep, List.lookup_cons, hne, ih]

/-- The keys under which a call and its expression differ. -/
def rewrittenKeys : List String := "source" :: callKeys

/-- **A field of a call** stays in its expression, if it is not one of those that the two
have for themselves. -/
theorem field_expressionFields {key : String} (hkey : key ∉ rewrittenKeys)
    (fields : List (Text × Json)) :
    (obj (expressionFields fields)).field key = (obj fields).field key := by
  simp only [rewrittenKeys, callKeys, List.mem_cons, List.not_mem_nil, or_false, not_or] at hkey
  obtain ⟨hsource, htype, hcallee, harguments⟩ := hkey
  have hkeep : (!(Text.ofString key).isOneOf callKeys) = true := by
    simp [Text.isOneOf, callKeys, Text.is, htype, hcallee, harguments]
  have hne : (Text.ofString key == Text.ofString "type") = false := by simp [htype]
  have hno : ∀ argument? : Option Json,
      (argument?.toList.map (Text.ofString "source", ·)).lookup (Text.ofString key) = none := by
    intro argument?
    cases argument? with
    | none => rfl
    | some argument => simp [hsource]
  show Option.getD (List.lookup _ (expressionFields fields)) _ = Option.getD _ _
  rw [expressionFields, List.lookup_cons, hne]
  show Option.getD (List.lookup _ (_ ++ _)) _ = _
  rw [List.lookup_append, hno, Option.none_or,
    lookup_filter (p := fun name => !name.isOneOf callKeys) hkeep]
  rfl

/-- A field of an object that is no call is rewritten where it stands. -/
theorem field_expressedFields (fields : List (Text × Json)) (key : String) :
    (obj (expressedFields fields)).field key = ((obj fields).field key).expressed := by
  show Option.getD (List.lookup _ _) _ = expressed (Option.getD (List.lookup _ _) _)
  rw [lookup_expressedFields]
  cases fields.lookup (Text.ofString key) with
  | none => rfl
  | some value => rfl

/-- **A field of a rewritten node** is the rewritten field. For a call, this is so where the
expression keeps the field. -/
theorem field_expressed {key : String} (h : node.isImportCall = false ∨ key ∉ rewrittenKeys) :
    node.expressed.field key = (node.field key).expressed := by
  cases node with
  | obj fields =>
    by_cases hcall : isImportCall (.obj fields) = true
    · rw [expressed_call hcall,
        field_expressionFields (h.resolve_left fun hnot => by rw [hcall] at hnot; cases hnot),
        field_expressedFields]
    · rw [expressed_of_not (by simpa using hcall), field_expressedFields]
  | arr items => rw [expressed]; rfl
  | _ => rw [expressed_leaf rfl]; rfl

/-- A call that is rewritten has the type of an expression. -/
theorem nodeType?_expressed_call (h : node.isImportCall = true) :
    node.expressed.nodeType? = some (Text.ofString "ImportExpression") := by
  obtain ⟨fields, rfl⟩ := exists_of_isImportCall h
  rw [expressed_call h]
  rfl

/-- **The type of a node stays**, unless the node is a call of the import keyword. -/
theorem nodeType?_expressed (h : node.isImportCall = false) :
    node.expressed.nodeType? = node.nodeType? := by
  rw [nodeType?, field_expressed (.inl h), text?_expressed]
  rfl

/-- Types that neither a call nor an expression has stay. -/
theorem hasType_expressed {type : String} (hcall : type ≠ "CallExpression")
    (hexpression : type ≠ "ImportExpression") : node.expressed.hasType type = node.hasType type := by
  by_cases h : node.isImportCall = true
  · have hbefore : node.nodeType? = some (Text.ofString "CallExpression") :=
      (hasType_iff node _).1 (Bool.and_eq_true _ _ ▸ h).1
    simp [hasType, hbefore, nodeType?_expressed_call h, Text.is, hcall.symm, hexpression.symm]
  · rw [hasType, nodeType?_expressed (by simpa using h)]
    rfl

/-- **No call of the import keyword** is left where a node is rewritten. -/
theorem isImportCall_expressed (node : Json) : node.expressed.isImportCall = false := by
  by_cases h : node.isImportCall = true
  · rw [isImportCall, hasType, nodeType?_expressed_call h]
    rfl
  · -- The type of the callee is not rewritten, so it does not become the keyword.
    have hnot : node.isImportCall = false := by simpa using h
    rw [isImportCall, hasType, nodeType?_expressed hnot, field_expressed (.inl hnot),
      hasType_expressed (by decide) (by decide)]
    exact hnot

/-! ## Children after the rewriting -/

/-- A choice that does not look inside values is the same after the rewriting. -/
theorem filter_map_expressed {keep : Json → Bool} (hkeep : ∀ j, keep j.expressed = keep j)
    (items : List Json) :
    (items.map expressed).filter keep = (items.filter keep).map expressed := by
  rw [List.filter_map]
  congr 1
  exact List.filter_congr fun j _ => hkeep j

/-- A field holds the same nodes, rewritten. -/
theorem nodesOf_expressed (value : Json) :
    nodesOf value.expressed = (nodesOf value).map expressed := by
  obtain ⟨hvalue, h⟩ | ⟨items, rfl, h⟩ | ⟨fields, fields', rfl, h⟩ := value.expressed_cases
  · rw [h]
    cases value <;> first | rfl | cases hvalue
  · rw [h]
    exact filter_map_expressed isObject_expressed items
  · rw [nodesOf, List.map_singleton, h]
    rfl

/-- So an object that is no call has the same children, rewritten. -/
theorem occurrences_expressedFields (fields : List (Text × Json)) :
    occurrences (expressedFields fields) = (occurrences fields).map expressed := by
  induction fields with
  | nil => rfl
  | cons field rest ih =>
    obtain ⟨key, value⟩ := field
    rw [expressedFields, occurrences, occurrences, List.map_append, ih, nodesOf_expressed]
    split <;> rfl

/-- **The position of a node** stays. -/
theorem offset?_expressed (node : Json) : babel.offset? node.expressed = babel.offset? node := by
  show (node.expressed.field "start").int? = _
  rw [field_expressed (.inr (by decide)), int?_expressed]
  rfl

/-- **The children of a node that is no call are its children, rewritten**, in the same order:
positions stay. -/
theorem children_expressed (h : node.isImportCall = false) :
    children babel.offset? node.expressed = (children babel.offset? node).map expressed := by
  cases node with
  | arr items =>
    rw [expressed, expressedItems_eq]
    exact filter_map_expressed isContainer_expressed items
  | obj fields =>
    rw [expressed_of_not h, children, occurrences_expressedFields, inOrder_map offset?_expressed]
    rfl
  | _ => rw [expressed_leaf rfl]; rfl

/-! ## Children of a call -/

/-- The field of an object can be put in front of its other fields. -/
theorem exists_perm_of_field (fields : List (Text × Json)) (key : String)
    (h : ((obj fields).field key).isNull = false) :
    ∃ rest, fields.Perm ((Text.ofString key, (obj fields).field key) :: rest) := by
  have hfound : fields.lookup (Text.ofString key) = some ((obj fields).field key) := by
    show _ = some (Option.getD (fields.lookup (Text.ofString key)) .null)
    cases hlookup : fields.lookup (Text.ofString key) with
    | some value => rfl
    | none =>
      have hnull : (obj fields).field key = .null := congrArg (Option.getD · Json.null) hlookup
      rw [hnull] at h
      cases h
  obtain ⟨before, after, hsplit, _⟩ := List.lookup_eq_some_iff.1 hfound
  refine ⟨before ++ after, ?_⟩
  generalize (obj fields).field key = value at hsplit
  rw [hsplit]
  exact List.perm_middle

theorem nodesOf_of_isObject {value : Json} (h : value.isObject = true) :
    nodesOf value = [value] := by
  cases value <;> first | rfl | cases h

/-! ## Lists of arguments -/

/-- Arguments as the parser writes them are none, or one node. -/
theorem isArgumentList_cases {j : Json} (h : j.isArgumentList = true) :
    j = .arr [] ∨ ∃ argument, argument.isObject = true ∧ j = .arr [argument] := by
  unfold isArgumentList at h
  split at h
  · exact .inl rfl
  · exact .inr ⟨_, h, rfl⟩
  · cases h

theorem isArgumentList_expressed {j : Json} (h : j.isArgumentList = true) :
    j.expressed.isArgumentList = true := by
  obtain rfl | ⟨argument, hargument, rfl⟩ := isArgumentList_cases h
  · rfl
  · rw [expressed, expressedItems_eq]
    exact (isObject_expressed argument).trans hargument

theorem nodesOf_argumentList {j : Json} (h : j.isArgumentList = true) : nodesOf j = j.items := by
  obtain rfl | ⟨argument, hargument, rfl⟩ := isArgumentList_cases h
  · rfl
  · exact List.filter_eq_self.2 fun other hother => by rwa [List.mem_singleton.1 hother]

/-- A call has at most one argument, so its arguments are in order as they are. -/
theorem eq_of_perm_argumentList {j : Json} (h : j.isArgumentList = true) {nodes : List Json}
    (hperm : nodes.Perm j.items) : nodes = j.items := by
  obtain rfl | ⟨argument, _, rfl⟩ := isArgumentList_cases h
  · exact hperm.eq_nil
  · exact List.perm_singleton.1 hperm

/-- The field for the source holds the argument, and is not there without one. -/
theorem occurrences_source {j : Json} (h : j.isArgumentList = true) :
    occurrences (j.items.head?.toList.map (Text.ofString "source", ·)) = j.items := by
  obtain rfl | ⟨argument, hargument, rfl⟩ := isArgumentList_cases h
  · rfl
  · have hkey : (Text.ofString "source").isOneOf metadataKeys = false := by decide
    show (if (Text.ofString "source").isOneOf metadataKeys = true then [] else nodesOf argument) ++ []
      = [argument]
    rw [hkey, nodesOf_of_isObject hargument]
    rfl

/-! ## Fields of a call -/

section Call

variable {fields : List (Text × Json)}

/-- **The fields of a plain call** are its callee, its arguments and fields without nodes. -/
theorem IsPlainCall.exists_perm (h : IsPlainCall (.obj fields))
    (hcall : isImportCall (.obj fields) = true) :
    ∃ others, fields.Perm ((Text.ofString "callee", (obj fields).field "callee")
        :: (Text.ofString "arguments", (obj fields).field "arguments") :: others)
      ∧ occurrences others = [] := by
  have hcallee : ((obj fields).field "callee").isObject = true :=
    isObject_of_hasType (Bool.and_eq_true _ _ ▸ hcall).2
  have harguments := h.arguments
  obtain ⟨rest, hrest⟩ := exists_perm_of_field fields "callee" <| by
    cases hvalue : (obj fields).field "callee" <;>
      first | rfl | (rw [hvalue] at hcallee; cases hcallee)
  obtain ⟨rest', hrest'⟩ := exists_perm_of_field fields "arguments" <| by
    obtain hlist | ⟨_, _, hlist⟩ := isArgumentList_cases harguments <;> rw [hlist] <;> rfl
  generalize (obj fields).field "callee" = callee at hrest
  generalize (obj fields).field "arguments" = arguments at hrest'
  -- The arguments are not the callee, so they are among what is left besides it.
  have hmem : (Text.ofString "arguments", arguments) ∈ rest := by
    have hfield := hrest.mem_iff.1 (hrest'.mem_iff.2 List.mem_cons_self)
    refine (List.mem_cons.1 hfield).resolve_left fun heq => ?_
    have hkey := Text.ofString_injective (Prod.mk.inj heq).1
    exact absurd hkey (by decide)
  obtain ⟨before, after, hsplit⟩ := List.append_of_mem hmem
  have hperm : fields.Perm ((Text.ofString "callee", callee)
      :: (Text.ofString "arguments", arguments) :: (before ++ after)) := by
    rw [hsplit] at hrest
    exact hrest.trans (List.perm_middle.cons _)
  refine ⟨before ++ after, hperm, ?_⟩
  -- No key comes twice, so what is left has neither key, and may hold metadata at most.
  have hdistinct := (hperm.map Prod.fst).nodup_iff.1 h.distinct
  simp only [List.map_cons, List.nodup_cons, List.mem_cons, List.mem_map, not_or, not_exists,
    not_and] at hdistinct
  obtain ⟨⟨_, hnocallee⟩, hnoarguments, _⟩ := hdistinct
  apply occurrences_eq_nil
  intro field hfield hcontainer
  have hmember : field ∈ fields :=
    hperm.mem_iff.2 (List.mem_cons_of_mem _ (List.mem_cons_of_mem _ hfield))
  have hkey := h.others field hmember hcontainer
  simp only [Text.isOneOf, List.any_cons, Bool.or_eq_true, Text.is_iff] at hkey
  exact (hkey.resolve_left (hnocallee field hfield)).resolve_left (hnoarguments field hfield)

/-- **The children of a plain call** are its callee and its argument, in any order. -/
theorem IsPlainCall.occurrences_perm (h : IsPlainCall (.obj fields))
    (hcall : isImportCall (.obj fields) = true) :
    (occurrences fields).Perm
      ((obj fields).field "callee" :: ((obj fields).field "arguments").items) := by
  have hcallee : ((obj fields).field "callee").isObject = true :=
    isObject_of_hasType (Bool.and_eq_true _ _ ▸ hcall).2
  have hcalleeKey : (Text.ofString "callee").isOneOf metadataKeys = false := by decide
  have hargumentsKey : (Text.ofString "arguments").isOneOf metadataKeys = false := by decide
  obtain ⟨others, hperm, hothers⟩ := h.exists_perm hcall
  refine (Json.occurrences_perm hperm).trans (.of_eq ?_)
  rw [occurrences, occurrences, hothers, hcalleeKey, hargumentsKey, nodesOf_of_isObject hcallee,
    nodesOf_argumentList h.arguments, List.append_nil]
  rfl

/-- What an expression keeps of its call holds no nodes. -/
theorem IsPlainCall.occurrences_kept (h : IsPlainCall (.obj fields)) :
    occurrences ((expressedFields fields).filter fun field => !field.1.isOneOf callKeys) = [] := by
  apply occurrences_eq_nil
  intro field hfield hcontainer
  obtain ⟨hmem, hkey⟩ := List.mem_filter.1 hfield
  rw [expressedFields_eq] at hmem
  obtain ⟨original, horiginal, rfl⟩ := List.mem_map.1 hmem
  rw [isContainer_expressed] at hcontainer
  -- The two keys that may hold nodes are dropped, and the rest is metadata.
  have hallowed : (original.1.is "callee" || (original.1.is "arguments"
      || original.1.isOneOf metadataKeys)) = true := h.others original horiginal hcontainer
  have hkept : (!(original.1.is "type" || (original.1.is "callee"
      || (original.1.is "arguments" || false)))) = true := hkey
  simp only [Bool.not_eq_true', Bool.or_eq_false_iff] at hkept
  rwa [hkept.2.1, hkept.2.2.1] at hallowed

/-- **The only child of an expression** is its source. -/
theorem IsPlainCall.children_expressed (h : IsPlainCall (.obj fields))
    (hcall : isImportCall (.obj fields) = true) :
    children babel.offset? (expressed (.obj fields))
      = ((obj fields).field "arguments").items.map expressed := by
  have hlist := isArgumentList_expressed h.arguments
  have htype : ∀ t : Text, (if (Text.ofString "type").isOneOf metadataKeys then []
      else nodesOf (.str t)) = [] := fun t => ite_self _
  rw [expressed_call hcall, children, expressionFields, Json.ofString, occurrences, htype,
    occurrences_append, field_expressedFields, occurrences_source hlist, h.occurrences_kept,
    ← items_expressed, List.append_nil, List.nil_append]
  exact eq_of_perm_argumentList hlist (inOrder_perm _ _)

/-- The argument of a call; `null` for none. -/
def argument (call : Json) : Json := (call.field "arguments").items.head?.getD .null

/-- **The source of an expression** is the rewritten argument of its call. -/
theorem IsPlainCall.field_source_expressed (h : IsPlainCall (.obj fields))
    (hcall : isImportCall (.obj fields) = true) :
    (expressed (.obj fields)).field "source" = (argument (.obj fields)).expressed := by
  have hnone : ((expressedFields fields).filter fun field => !field.1.isOneOf callKeys).lookup
      (Text.ofString "source") = none := by
    have hkeep : (!(Text.ofString "source").isOneOf callKeys) = true := by decide
    have hsource : fields.lookup (Text.ofString "source") = none :=
      Option.isNone_iff_eq_none.1 h.source
    rw [lookup_filter (p := fun name => !name.isOneOf callKeys) hkeep, lookup_expressedFields,
      hsource]
    rfl
  have hne : (Text.ofString "source" == Text.ofString "type") = false := by decide
  rw [expressed_call hcall]
  show ((expressionFields (expressedFields fields)).lookup (Text.ofString "source")).getD .null = _
  rw [expressionFields, List.lookup_cons, hne, field_expressedFields, items_expressed]
  show Option.getD (List.lookup _ (_ ++ _)) _ = _
  rw [List.lookup_append, hnone, Option.or_none, argument]
  cases ((obj fields).field "arguments").items with
  | nil => rfl
  | cons first rest => simp

end Call

end Json

end ModuleLinks

/-
The survey of a module that is encoded as an object tree.

**Everything but links is mute.** Below a declaration stand names, strings and
attributes, none of which has a form. So a value is called mute if the nodes in
it yield nothing, a node without a form is mute if its fields are, and a
declaration with mute fields yields its own link. Because the children of a node
may be sorted, what is mute is mute in any order; only the items of the module
have to stay in theirs, and that they do because their positions ascend.

Main statement: `yields_program`.
-/
import ModuleLinks.Proofs.ObjectReading

set_option autoImplicit false

namespace ModuleLinks

open Code

namespace ObjectParser

variable {p : ObjectParser} {placement : Placement} {address : List ℕ} {type : Text}
  {fields : List (Text × Planted Json)}

/-! ## Mute values -/

/-- **A mute value**: the nodes in it yield nothing. -/
def Mute (p : ObjectParser) (value : Planted Json) : Prop :=
  ∀ address, ∀ node ∈ Json.nodesOf (value address), p.dialect.toDialect.Yields node []

/-- A value that holds no nodes is mute. -/
theorem mute_fixed {j : Json} (h : Json.nodesOf j = []) : p.Mute (fixed j) := by
  intro address node hnode
  rw [fixed, h] at hnode
  cases hnode

/-- The objects among mute values yield nothing, wherever the values stand. -/
theorem yields_of_mem_grow {items : List (Planted Json)} (h : ∀ item ∈ items, p.Mute item) (i : ℕ) :
    ∀ node ∈ (grow address i items).filter Json.isObject, p.dialect.toDialect.Yields node [] := by
  intro node hnode
  obtain ⟨hmem, hobject⟩ := List.mem_filter.1 hnode
  obtain ⟨item, hitem, k, _, rfl⟩ := exists_of_mem_grow hmem
  apply h item hitem (address ++ [k])
  cases hvalue : item (address ++ [k]) with
  | obj fields => exact List.mem_singleton_self _
  | _ => rw [hvalue] at hobject; cases hobject

/-- A list of mute values is mute. -/
theorem mute_list {items : List (Planted Json)} (h : ∀ item ∈ items, p.Mute item) :
    p.Mute (list items) := fun _ => yields_of_mem_grow h 0

theorem mute_list_map {α : Type} {make : α → Planted Json} (h : ∀ value, p.Mute (make value))
    (values : List α) : p.Mute (list (values.map make)) := by
  apply mute_list
  intro item hitem
  obtain ⟨value, _, rfl⟩ := List.mem_map.1 hitem
  exact h value

/-- The types with a form are those that refer to other modules. -/
theorem mem_objectForms : ∀ entry ∈ p.dialect.forms, entry.1 ∈ objectForms := by
  cases p <;> decide

/-- A node has no form if its type is none of those. -/
theorem form?_node (h : type.isOneOf objectForms = false) :
    p.dialect.form? (p.node placement type fields address) = none := by
  rw [ObjectDialect.form?, Option.map_eq_none_iff, List.find?_eq_none]
  intro entry hentry
  exact Bool.eq_false_iff.1 (Text.is_eq_false h (mem_objectForms entry hentry))

/-- The position of a node is no child of it. -/
theorem occurrences_position :
    Json.occurrences (p.position placement address) = [] := by
  unfold position
  cases placement.start? address with
  | none => rfl
  | some n => cases p <;> rfl

/-- **The children of a node** are the nodes in its fields, in some order. -/
theorem children_node_perm :
    (p.dialect.toDialect.children (p.node placement type fields address)).Perm
      (Json.occurrences (growFields address 0 fields)) := by
  have hoccurrences : Json.occurrences ((Text.ofString "type", Json.str type)
      :: growFields address 0 fields ++ p.position placement address)
        = Json.occurrences (growFields address 0 fields) := by
    rw [List.cons_append, Json.occurrences, Json.occurrences_append, occurrences_position,
      List.append_nil]
    rfl
  show (Json.inOrder p.dialect.offset? (Json.occurrences _)).Perm _
  rw [hoccurrences]
  exact Json.inOrder_perm _ _

/-- A child of a planted node comes from one of its fields. -/
theorem exists_of_mem_occurrences {i : ℕ} {node : Json}
    (h : node ∈ Json.occurrences (growFields address i fields)) :
    ∃ field ∈ fields, ∃ a, node ∈ Json.nodesOf (field.2 a) := by
  induction fields generalizing i with
  | nil => cases h
  | cons field rest ih =>
    obtain ⟨key, value⟩ := field
    rw [growFields, Json.occurrences] at h
    rcases List.mem_append.1 h with hfirst | hrest
    · split at hfirst
      · cases hfirst
      · exact ⟨(key, value), List.mem_cons_self, _, hfirst⟩
    · obtain ⟨other, hother, ha⟩ := ih hrest
      exact ⟨other, List.mem_cons_of_mem _ hother, ha⟩

/-- The children of a node with mute fields yield nothing. -/
theorem yields_children (hmute : ∀ field ∈ fields, p.Mute field.2) :
    ∀ child ∈ p.dialect.toDialect.children (p.node placement type fields address),
      p.dialect.toDialect.Yields child [] := by
  intro child hchild
  -- Sorting may have moved the child, but it is still in one of the fields.
  obtain ⟨field, hfield, a, hnode⟩ :=
    exists_of_mem_occurrences (children_node_perm.mem_iff.1 hchild)
  exact hmute field hfield a child hnode

/-- **A node without a form** is mute if its fields are. -/
theorem mute_node (htype : type.isOneOf objectForms = false)
    (hmute : ∀ field ∈ fields, p.Mute field.2) : p.Mute (p.node placement type fields) := by
  intro address node hnode
  rw [List.mem_singleton.1 hnode]
  exact Dialect.yields_nil (form?_node htype) (yields_children hmute)

theorem mute_named {members : List (String × Planted Json)} (h : ∀ field ∈ members, p.Mute field.2) :
    ∀ field ∈ named members, p.Mute field.2 := by
  induction members with
  | nil => exact nofun
  | cons member rest ih =>
    obtain ⟨key, value⟩ := member
    intro field hfield
    rcases List.mem_cons.1 hfield with rfl | hrest
    · exact h (key, value) List.mem_cons_self
    · exact ih (fun other hother => h other (List.mem_cons_of_mem _ hother)) field hrest

/-- A node of a type that refers to nothing, with mute fields, is mute. -/
theorem mute_plainNode {word : String} {members : List (String × Planted Json)}
    (htype : (Text.ofString word).isOneOf objectForms = false)
    (h : ∀ field ∈ members, p.Mute field.2) : p.Mute (p.plainNode placement word members) :=
  mute_node htype (mute_named h)

theorem mute_two {first second : String × Planted Json} (hfirst : p.Mute first.2)
    (hsecond : p.Mute second.2) : ∀ field ∈ [first, second], p.Mute field.2 :=
  List.forall_mem_cons.2 ⟨hfirst, List.forall_mem_singleton.2 hsecond⟩

/-! ## Names, specifiers and attributes -/

/-- Strings and names are mute. -/
theorem mute_textLiteral (t : Text) : p.Mute (p.textLiteral placement t) := by
  apply mute_plainNode
  · cases p <;> rfl
  · exact List.forall_mem_singleton.2 (mute_fixed rfl)

theorem mute_literal (l : Literal) : p.Mute (p.literal placement l) := mute_textLiteral l.text

theorem mute_identifier (chars : List Char) : p.Mute (p.identifier placement chars) :=
  mute_plainNode rfl (List.forall_mem_singleton.2 (mute_fixed rfl))

theorem mute_name (n : Name) : p.Mute (p.name placement n) := by
  cases n with
  | identifier chars => exact mute_identifier chars
  | string l => exact mute_literal l

theorem mute_name? (n : Option Name) : p.Mute (p.name? placement n) := by
  cases n with
  | none => exact mute_fixed rfl
  | some n => exact mute_name n

/-- Specifiers hold names only, so they are mute, and so are the bindings of an export. -/
theorem mute_specifier (s : Specifier) : p.Mute (p.specifier placement s) := by
  cases s with
  | defaultBinding bound =>
    exact mute_plainNode rfl (List.forall_mem_singleton.2 (mute_identifier bound))
  | namespaceBinding bound =>
    exact mute_plainNode rfl (List.forall_mem_singleton.2 (mute_identifier bound))
  | named imported bound =>
    apply mute_plainNode rfl
    have hbound : p.Mute (p.name placement (bound.getD imported)) := mute_name _
    cases p with
    | babel => exact mute_two (mute_name imported) hbound
    | oxc => exact mute_two (mute_name imported) hbound
    | swc => exact mute_two hbound (mute_name? _)

theorem mute_binding (b : Binding) : p.Mute (p.binding placement b) := by
  apply mute_plainNode rfl
  cases p with
  | babel => exact mute_two (mute_name b.original) (mute_name b.exported)
  | oxc => exact mute_two (mute_name b.original) (mute_name b.exported)
  | swc => exact mute_two (mute_name b.original) (mute_name? b.alias?)

theorem mute_attributes (attributes : List Attribute) :
    p.Mute (list (attributes.map (p.attributeNode placement))) := by
  apply mute_list_map
  intro a
  apply mute_plainNode
  · cases p <;> rfl
  · exact mute_two (mute_name a.key) (mute_literal a.value)

/-- Attributes are mute in whichever field the parser keeps them. -/
theorem mute_attributesField (attributes : List Attribute) :
    p.Mute (p.attributesField placement attributes).2 := by
  cases p with
  | babel => exact mute_attributes attributes
  | oxc => exact mute_attributes attributes
  | swc =>
    cases attributes with
    | nil => exact mute_fixed rfl
    | cons a rest =>
      exact mute_plainNode rfl (List.forall_mem_singleton.2 (mute_attributes (a :: rest)))

/-! ## What refers to no other module -/

/-- **A node that is no reference** makes no link, whichever parser wrote it. -/
theorem link?_of_not_isReference {node : Json} (h : node.isReference = false) :
    p.dialect.toDialect.link? node = .ok none := by
  simp only [Json.isReference, Json.hasTypeIn, List.any_cons, List.any_nil, Bool.or_false,
    Bool.or_eq_false_iff] at h
  obtain ⟨⟨himport, hnamed, hall, hexpression⟩, hkeyword⟩ := h
  cases hcall : node.hasType "CallExpression" with
  | false =>
    have hform : p.dialect.toDialect.form? node = none := by
      show p.dialect.form? node = none
      cases p <;>
        simp [ObjectDialect.form?, dialect, ModuleLinks.babel, ModuleLinks.oxc, ModuleLinks.swc,
          himport, hnamed, hall, hcall, hexpression]
    rw [Dialect.link?, hform]
  | true =>
    -- Two dialects ask a call for its callee, and in the third one it has no form.
    rw [hcall, Bool.true_and] at hkeyword
    cases p with
    | babel =>
      apply Dialect.link?_of_not_isDynamicImport
      · show ModuleLinks.babel.form? node = _
        simp [ObjectDialect.form?, ModuleLinks.babel, himport, hnamed, hall, hcall]
      · show Babel.isDynamicImport node = false
        rw [Babel.isDynamicImport, hexpression, hcall, hkeyword]
        rfl
    | oxc =>
      have hform : ModuleLinks.oxc.toDialect.form? node = none := by
        show ModuleLinks.oxc.form? node = _
        simp [ObjectDialect.form?, ModuleLinks.oxc, himport, hnamed, hall, hexpression]
      show ModuleLinks.oxc.toDialect.link? node = _
      rw [Dialect.link?, hform]
    | swc =>
      apply Dialect.link?_of_not_isDynamicImport
      · show ModuleLinks.swc.form? node = _
        simp [ObjectDialect.form?, ModuleLinks.swc, himport, hnamed, hall, hcall]
      · show Swc.isDynamicImport node = false
        rw [Swc.isDynamicImport, hcall, hkeyword]
        rfl

/-- **A value without references** is mute: every node that a survey meets in it stands in the value
itself. -/
theorem mute_value (value : Value) : p.Mute (fixed value.json) := by
  intro _ node hnode
  apply Dialect.gather_of_link?
  intro inner hinner
  -- Whatever a survey meets below a node stands inside the value that holds it.
  have hfree : inner.Everywhere fun value => value.isReference = false :=
    p.dialect.toDialect.forall_mem_preorder (fun _ h _ hchild => h.of_mem_children hchild)
      (value.isFree.of_mem_nodesOf hnode) inner hinner
  exact link?_of_not_isReference hfree.here

/-- What a dynamic import is called with refers to nothing itself, computed or not. -/
theorem mute_argument (argument : Argument) : p.Mute (p.argument placement argument) := by
  cases argument with
  | literal source => exact mute_literal source.toLiteral
  | computed expression => exact mute_value (expression.object p)

/-- An argument is mute with its spread, which makes a node without a type. -/
theorem mute_spread {value : Planted Json} (h : p.Mute value) : p.Mute (spread value) := by
  intro address node hnode
  rw [List.mem_singleton.1 hnode]
  apply Dialect.yields_nil
  · cases p <;> rfl
  · intro child hchild
    have hmem : child ∈ Json.nodesOf (value (address ++ [0])) := by
      have hperm := Json.inOrder_perm p.dialect.offset? (Json.occurrences
        [(Text.ofString "spread", .null), (Text.ofString "expression", value (address ++ [0]))])
      have hoccurrence := hperm.mem_iff.1 hchild
      rwa [show Json.occurrences [(Text.ofString "spread", .null),
        (Text.ofString "expression", value (address ++ [0]))]
          = Json.nodesOf (value (address ++ [0])) from List.append_nil _] at hoccurrence
    exact h _ child hmem

theorem mute_keyword : p.Mute (p.keyword placement) := mute_plainNode rfl nofun

/-! ## Declarations -/

/-- **A declaration with mute parts yields the link that its visit makes**, and nothing more. -/
theorem yields_declaration {word : String} {front : List (String × Planted Json)}
    {source : Planted Json} {attributes : List Attribute} {link : Option Link}
    (hfront : ∀ field ∈ front, p.Mute field.2) (hsource : p.Mute source)
    (hlink : p.dialect.toDialect.link?
      (p.declaration placement word front source attributes address) = .ok link) :
    p.dialect.toDialect.Yields (p.declaration placement word front source attributes address)
      link.toList := by
  apply Dialect.yields_of_link? hlink
  apply yields_children
  apply mute_named
  exact List.forall_mem_append.2 ⟨hfront, mute_two hsource (mute_attributesField attributes)⟩

/-- Nodes in the field of the specifiers that have tags make the tags of the declaration. -/
theorem tags_of_field {α : Type} {node : Json} {a : List ℕ} {make : α → Planted Json}
    {meaning : α → Json} (values : List α)
    (hfield : node.field "specifiers" = list (values.map make) a)
    (hobject : ∀ value b, (make value b).isObject = true)
    (htag : ∀ value b, p.dialect.toDialect.tag (make value b) = .ok (meaning value)) :
    p.dialect.toDialect.tags node = .ok (tagsOf meaning values) := by
  apply Dialect.tags_of_forall₂
  have hspecifiers : p.dialect.toDialect.specifiers node = grow a 0 (values.map make) := by
    show (Json.items (node.field "specifiers")).filter Json.isObject = _
    rw [hfield]
    exact List.filter_eq_self.2 (forall_mem_grow_map hobject values a 0)
  rw [hspecifiers]
  exact forall₂_grow make htag values a 0

/-- A specifier is a node, so it is one of the specifiers that are read. -/
theorem isObject_specifier (s : Specifier) (a : List ℕ) :
    (p.specifier placement s a).isObject = true := by
  cases s <;> rfl

/-- A declaration with a string for its source has a source. -/
theorem hasSource_textLiteral {word : String} {front : List (String × Planted Json)} {t : Text}
    {attributes : List Attribute} (hfront : IsFront front) :
    p.dialect.toDialect.hasSource
      (p.declaration placement word front (p.textLiteral placement t) attributes address) = true := by
  show (!(Json.field _ "source").isNull) = true
  rw [field_source hfront]
  rfl

theorem hasSource_literal {word : String} {front : List (String × Planted Json)} {l : Literal}
    {attributes : List Attribute} (hfront : IsFront front) :
    p.dialect.toDialect.hasSource
      (p.declaration placement word front (p.literal placement l) attributes address) = true :=
  hasSource_textLiteral hfront

/-! ## Dynamic imports -/

/-- A dynamic import has one of two forms, by the parser. -/
theorem form?_importCall (value : Planted Json) :
    p.dialect.toDialect.form? (p.importCall placement value address) = some .importCall
      ∨ p.dialect.toDialect.form? (p.importCall placement value address)
        = some .importExpression := by
  cases p with
  | babel => exact .inl rfl
  | oxc => exact .inr rfl
  | swc => exact .inl rfl

theorem isDynamicImport_importCall (value : Planted Json) :
    p.dialect.toDialect.isDynamicImport (p.importCall placement value address) = true := by
  cases p <;> rfl

/-- What a dynamic import is called with is found in its place. -/
theorem importArgument?_importCall {value : Planted Json}
    (hnull : ∀ a, (value a).isNull = false) :
    ∃ a, p.dialect.toDialect.importArgument? (p.importCall placement value address)
      = .ok (some (value a)) := by
  have hsome : ∀ a, (if (value a).isNull then none else some (value a)) = some (value a) := by
    intro a
    rw [hnull a]
    rfl
  cases p with
  | babel => exact ⟨_, congrArg Except.ok (hsome _)⟩
  | oxc => exact ⟨_, congrArg Except.ok (hsome _)⟩
  | swc => exact ⟨_, congrArg Except.ok (hsome _)⟩

/-- Read as a string, an argument is its source, or nothing if it is computed. -/
theorem literal?_argument (argument : Argument) :
    p.dialect.toDialect.literal? (p.argument placement argument address)
      = .ok argument.text? := by
  cases argument with
  | literal source => exact congrArg Except.ok (literal?_literal source.toLiteral)
  | computed expression => exact congrArg Except.ok (literal?_computed expression)

/-- What a dynamic import is called with is a node, and so it is not missing. -/
theorem isNull_argument (argument : Argument) (a : List ℕ) :
    (p.argument placement argument a).isNull = false := by
  cases argument with
  | literal source => rfl
  | computed expression =>
    have hnode := expression.object_isNode p
    show (expression.object p).json.isNull = false
    cases hvalue : (expression.object p).json with
    | obj fields => rfl
    | _ => rw [hvalue] at hnode; cases hnode

/-- **A dynamic import yields its link**, with the mark of a computed source if its argument is
one. -/
theorem yields_importCall (argument : Argument) :
    p.dialect.toDialect.Yields
      (p.importCall placement (p.argument placement argument) address)
      [{ specifiers := [Link.defaultTag], source := argument.text?.elim Link.computedSource .str }]
    := by
  have hexists : ∃ a, p.dialect.toDialect.importArgument?
      (p.importCall placement (p.argument placement argument) address)
        = .ok (some (p.argument placement argument a)) :=
    importArgument?_importCall (isNull_argument argument)
  obtain ⟨a, hargument⟩ := hexists
  have hlink := Dialect.link?_dynamicImport (form?_importCall _) (isDynamicImport_importCall _)
    hargument (literal?_argument argument) argument.text?_ne
  have hmute : p.Mute (p.argument placement argument) := mute_argument argument
  apply Dialect.yields_of_link? hlink
  cases p with
  | babel =>
    exact yields_children (mute_named
      (mute_two mute_keyword (mute_list (List.forall_mem_singleton.2 hmute))))
  | oxc => exact yields_children (mute_named (List.forall_mem_singleton.2 hmute))
  | swc =>
    exact yields_children (mute_named
      (mute_two mute_keyword (mute_list (List.forall_mem_singleton.2 (mute_spread hmute)))))

/-! ## Nodes around a dynamic import -/

theorem growFields_append (before after : List (Text × Planted Json)) (i : ℕ) :
    growFields address i (before ++ after)
      = growFields address i before ++ growFields address (i + before.length) after := by
  induction before generalizing i with
  | nil => rfl
  | cons field before ih =>
    obtain ⟨key, value⟩ := field
    have hlength : i + 1 + before.length = i + (before.length + 1) := by omega
    rw [List.cons_append, growFields, growFields, ih, hlength, List.cons_append, List.length_cons]

/-- **The field around another node** holds that node, and what stands beside it in a list yields
nothing. -/
theorem exists_nodesOf_holding {w : ObjectWrapper} {inner : Planted Json}
    (hobject : ∀ a, (inner a).isObject = true) (a : List ℕ) :
    ∃ b left right, Json.nodesOf (holding w inner a) = left ++ inner b :: right
      ∧ (∀ node ∈ left, p.dialect.toDialect.Yields node [])
      ∧ ∀ node ∈ right, p.dialect.toDialect.Yields node [] := by
  have hmute : ∀ values : List Value, ∀ item ∈ values.map (fixed ·.json), p.Mute item := by
    intro values item hitem
    obtain ⟨value, _, rfl⟩ := List.mem_map.1 hitem
    exact mute_value value
  unfold holding
  cases w.beside? with
  | none =>
    refine ⟨a, [], [], ?_, nofun, nofun⟩
    have h := hobject a
    show Json.nodesOf (inner a) = _
    cases hvalue : inner a with
    | obj fields => rfl
    | _ => rw [hvalue] at h; cases h
  | some sides =>
    obtain ⟨left, right⟩ := sides
    have hnodes : Json.nodesOf (list (left.map (fixed ·.json) ++ inner :: right.map (fixed ·.json)) a)
        = (grow a 0 (left.map (fixed ·.json))).filter Json.isObject
          ++ inner (a ++ [0 + (left.map fun value => fixed value.json).length])
            :: (grow a (0 + (left.map fun value => fixed value.json).length + 1)
              (right.map (fixed ·.json))).filter Json.isObject := by
      show List.filter Json.isObject (grow a 0 (_ ++ inner :: _)) = _
      rw [grow_append, List.filter_append, grow, List.filter_cons_of_pos (hobject _)]
    exact ⟨_, _, _, hnodes, yields_of_mem_grow (hmute left) 0, yields_of_mem_grow (hmute right) _⟩

/-- **A node around another one** yields what the other one yields. -/
theorem yields_wrap {w : ObjectWrapper} {inner : Planted Json} {links : List Link}
    (hobject : ∀ a, (inner a).isObject = true)
    (hinner : ∀ a, p.dialect.toDialect.Yields (inner a) links) :
    p.dialect.toDialect.Yields (p.wrap placement w inner address) links := by
  obtain ⟨b, left, right, hb, hleft, hright⟩ :=
    exists_nodesOf_holding (p := p) (w := w) hobject (address ++ [0 + (w.before.map written).length])
  -- The fields before, the field of the other node, and those behind it.
  have hfields : Json.occurrences (growFields address 0 (w.before.map written
      ++ (w.key.name, holding w inner) :: w.after.map written))
        = (Json.occurrences (growFields address 0 (w.before.map written)) ++ left)
          ++ inner b :: (right ++ Json.occurrences (growFields address
            (0 + (w.before.map written).length + 1) (w.after.map written))) := by
    rw [growFields_append, Json.occurrences_append, growFields, Json.occurrences,
      w.key.isOneOf_metadataKeys, if_neg Bool.false_ne_true, hb, List.append_assoc,
      List.append_assoc, List.cons_append]
  have hchildren : (p.dialect.toDialect.children (p.wrap placement w inner address)).Perm
      (Json.occurrences (growFields address 0 (w.before.map written
        ++ (w.key.name, holding w inner) :: w.after.map written))) := children_node_perm
  rw [hfields] at hchildren
  have hmute : ∀ (fields : List Field) (i : ℕ),
      ∀ child ∈ Json.occurrences (growFields address i (fields.map written)),
        p.dialect.toDialect.Yields child [] := by
    intro fields i child hchild
    obtain ⟨field, hfield, a, hnode⟩ := exists_of_mem_occurrences hchild
    obtain ⟨original, _, rfl⟩ := List.mem_map.1 hfield
    exact mute_value original.value a child hnode
  exact Dialect.yields_around (form?_node w.type_isFree) hchildren
    (List.forall_mem_append.2 ⟨hmute w.before 0, hleft⟩)
    (List.forall_mem_append.2 ⟨hright, hmute w.after _⟩) (hinner b)

/-! ## Items -/

/-- Nodes around a node are nodes. -/
theorem isObject_foldr_wrap (wrappers : List ObjectWrapper) {inner : Planted Json}
    (h : ∀ a, (inner a).isObject = true) (a : List ℕ) :
    (wrappers.foldr (p.wrap placement) inner a).isObject = true := by
  cases wrappers with
  | nil => exact h a
  | cons w rest => rfl

/-- **Nodes around nodes change nothing**: what is inside yields what it yields alone. -/
theorem yields_foldr_wrap (wrappers : List ObjectWrapper) {inner : Planted Json} {links : List Link}
    (hobject : ∀ a, (inner a).isObject = true)
    (hinner : ∀ a, p.dialect.toDialect.Yields (inner a) links) (a : List ℕ) :
    p.dialect.toDialect.Yields (wrappers.foldr (p.wrap placement) inner a) links := by
  induction wrappers generalizing a with
  | nil => exact hinner a
  | cons w rest ih => exact yields_wrap (isObject_foldr_wrap rest hobject) ih

theorem isObject_importCall (value : Planted Json) (a : List ℕ) :
    (p.importCall placement value a).isObject = true := by
  cases p <;> rfl

theorem isFront_export {specifiers : Planted Json} :
    IsFront [("declaration", fixed .null), ("specifiers", specifiers)] :=
  List.forall_mem_cons.2
    ⟨List.mem_cons_self,
      List.forall_mem_singleton.2 (List.mem_cons_of_mem _ List.mem_cons_self)⟩

theorem mute_exportFront (bindings : List Binding) :
    ∀ field ∈ [("declaration", fixed .null),
      ("specifiers", list (bindings.map (p.binding placement)))], p.Mute field.2 :=
  mute_two (mute_fixed rfl) (mute_list_map mute_binding bindings)

/-- **An item yields its link**, if it makes one. -/
theorem yields_item (it : Item) :
    p.dialect.toDialect.Yields (p.item placement it address) it.link?.toList := by
  cases it with
  | importing clause source attributes =>
    have hfront : IsFront [("specifiers",
        list ((clause.flatMap Part.specifiers).map (p.specifier placement)))] :=
      List.forall_mem_singleton.2 (List.mem_cons_of_mem _ List.mem_cons_self)
    have htags : p.dialect.toDialect.tags
        (p.item placement (.importing clause source attributes) address)
          = .ok (tagsOf Specifier.tag (clause.flatMap Part.specifiers)) :=
      tags_of_field _ rfl isObject_specifier fun s b => tag_specifier s
    apply yields_declaration
    · exact List.forall_mem_singleton.2 (mute_list_map mute_specifier _)
    · exact mute_literal source.toLiteral
    · refine (refers_declaration hfront source).link?_import ?_ htags
      cases p <;> rfl
  | reexport bindings source attributes =>
    have htags : p.dialect.toDialect.tags
        (p.item placement (.reexport bindings source attributes) address)
          = .ok (tagsOf Binding.tag bindings) :=
      tags_of_field _ rfl (fun _ _ => rfl) fun b a => tag_binding b
    apply yields_declaration (mute_exportFront bindings)
    · exact mute_literal source.toLiteral
    · refine (refers_declaration isFront_export source).link?_namedExport ?_
        (hasSource_literal isFront_export) htags
      cases p <;> rfl
  | reexportAll source attributes =>
    have hfront : IsFront [] := nofun
    apply yields_declaration (List.forall_mem_nil _)
    · exact mute_literal source.toLiteral
    · refine (refers_declaration hfront source).link?_wholeExport ?_ (hasSource_literal hfront)
      cases p <;> rfl
  | exportList bindings =>
    apply yields_declaration (mute_exportFront bindings) (mute_fixed rfl)
    apply Dialect.link?_of_not_hasSource
    · cases p <;> rfl
    · have hsource : (p.item placement (.exportList bindings) address).field "source" = .null :=
        field_source isFront_export
      exact congrArg (fun j : Json => !j.isNull) hsource
  | dynamic around argument =>
    exact yields_foldr_wrap (around.object p) (isObject_importCall _)
      (fun a => yields_importCall argument) address

/-! ## The module -/

/-- The position of a node whose fields have names of their own. -/
theorem offset?_plainNode {word : String} {members : List (String × Planted Json)}
    (h : members.all (fun field => field.1 != "start" && field.1 != "span") = true) :
    p.dialect.offset? (p.plainNode placement word members address)
      = (placement.start? address).map Int.ofNat := by
  apply offset?_node
  induction members with
  | nil => exact nofun
  | cons member rest ih =>
    obtain ⟨key, value⟩ := member
    rw [List.all_cons, Bool.and_eq_true] at h
    obtain ⟨hkey, hrest⟩ := h
    refine List.forall_mem_cons.2 ⟨?_, ih hrest⟩
    have hne : key ≠ "start" ∧ key ≠ "span" := by simpa using hkey
    exact ⟨fun heq => hne.1 (Text.ofString_inj.1 heq), fun heq => hne.2 (Text.ofString_inj.1 heq)⟩

/-- The fields around another node do not say where the node begins. -/
theorem written_ne_place (fields : List Field) : ∀ field ∈ fields.map written,
    field.1 ≠ Text.ofString "start" ∧ field.1 ≠ Text.ofString "span" := by
  intro field hfield
  obtain ⟨original, _, rfl⟩ := List.mem_map.1 hfield
  have hne : ∀ word ∈ ["start", "span"], original.name ≠ Text.ofString word := by
    intro word hword heq
    have his := Text.is_eq_false original.name_isFree (List.mem_cons_of_mem "type" hword)
    rw [(Text.is_iff _ _).2 heq] at his
    cases his
  exact ⟨hne "start" (by decide), hne "span" (by decide)⟩

/-- **The position of an item** is the one for its address. -/
theorem offset?_item (it : Item) :
    p.dialect.offset? (p.item placement it address) = (placement.start? address).map Int.ofNat := by
  cases it with
  | importing clause source attributes => exact offset?_plainNode (by cases p <;> rfl)
  | reexport bindings source attributes => exact offset?_plainNode (by cases p <;> rfl)
  | reexportAll source attributes => exact offset?_plainNode (by cases p <;> rfl)
  | exportList bindings => exact offset?_plainNode (by cases p <;> rfl)
  | dynamic around argument =>
    show p.dialect.offset? ((around.object p).foldr (p.wrap placement) _ address) = _
    cases around.object p with
    | nil => cases p <;> exact offset?_plainNode rfl
    | cons w rest =>
      apply offset?_node
      refine List.forall_mem_append.2 ⟨written_ne_place w.before, List.forall_mem_cons.2 ⟨?_, ?_⟩⟩
      · exact ⟨w.key.name_ne (by decide), w.key.name_ne (by decide)⟩
      · exact written_ne_place w.after

/-- The items of a module begin one after the other. -/
theorem pairwise_grow_item (items : List Item) (i : ℕ) :
    (grow [] i (items.map (p.item placement))).Pairwise fun a b =>
      ∀ m ∈ p.dialect.offset? a, ∀ n ∈ p.dialect.offset? b, m ≤ n := by
  induction items generalizing i with
  | nil => exact .nil
  | cons it rest ih =>
    refine List.pairwise_cons.2 ⟨?_, ih (i + 1)⟩
    intro later hlater m hm n hn
    obtain ⟨tree, htree, k, hk, rfl⟩ := exists_of_mem_grow hlater
    obtain ⟨other, _, rfl⟩ := List.mem_map.1 htree
    -- The later item has a greater number, and positions ascend with the numbers.
    rw [List.nil_append, offset?_item] at hm hn
    obtain ⟨x, hx, rfl⟩ := Option.map_eq_some_iff.1 hm
    obtain ⟨y, hy, rfl⟩ := Option.map_eq_some_iff.1 hn
    exact Int.ofNat_le.2 (placement.ascends i k (Nat.le_of_succ_le hk) x hx y hy)

theorem isObject_item (it : Item) (a : List ℕ) : (p.item placement it a).isObject = true := by
  cases it with
  | dynamic around argument => exact isObject_foldr_wrap (around.object p) (isObject_importCall _) a
  | _ => rfl

/-- **The children of a program** are its items in order. -/
theorem children_program (items : List Item) :
    p.dialect.toDialect.children (p.program placement items)
      = grow [] 0 (items.map (p.item placement)) := by
  have hnodes : (grow [] 0 (items.map (p.item placement))).filter Json.isObject
      = grow [] 0 (items.map (p.item placement)) :=
    List.filter_eq_self.2 (forall_mem_grow_map isObject_item items [] 0)
  have hoccurrences : Json.occurrences ((Text.ofString "type", Json.ofString p.programType)
      :: (Text.ofString "body", .arr (grow [] 0 (items.map (p.item placement))))
      :: p.position placement []) = grow [] 0 (items.map (p.item placement)) := by
    rw [Json.occurrences, Json.occurrences, occurrences_position, List.append_nil]
    exact hnodes
  show Json.inOrder p.dialect.offset? (Json.occurrences _) = _
  rw [hoccurrences]
  exact Json.inOrder_of_pairwise (pairwise_grow_item items 0)

/-- Every dialect accepts the program that its parser writes. -/
theorem root_program (items : List Item) :
    p.dialect.toDialect.root (.json (p.program placement items))
      = .ok (p.program placement items) := by
  cases p <;> rfl

/-- **A program yields the links of the module.** -/
theorem yields_program (items : List Item) :
    p.dialect.toDialect.Yields (p.program placement items) (links items) := by
  have hform : p.dialect.toDialect.form? (p.program placement items) = none := by
    cases p <;> rfl
  have hitems : List.Forall₂ (fun it node => p.dialect.toDialect.Yields node (Item.link? it).toList)
      items (p.dialect.toDialect.children (p.program placement items)) := by
    rw [children_program]
    exact forall₂_grow (p.item placement) (fun it _ => yields_item it) items [] 0
  exact Dialect.yields_filterMap hform hitems

end ObjectParser

end ModuleLinks

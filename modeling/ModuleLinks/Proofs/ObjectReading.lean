/-
What is read off a node of an object tree.

The nodes are those that encode the parts of a logical module, and they are read
in the dialect of the parser that they are encoded for: names and literals by
their texts, specifiers by their tags, declarations by what they say of the
other module.

A node has few fields and maybe a position, so what matters is which names a
field does not have. The lemmas on fields say that for any node, and the others
then read one field after the other.
-/
import ModuleLinks.Proofs.ObjectEncoding

set_option autoImplicit false

namespace ModuleLinks

open Code

namespace ObjectParser

variable {p : ObjectParser} {placement : Placement} {address : List ℕ} {type : Text}
  {fields : List (Text × Planted Json)}

/-! ## Fields of a node -/

/-- A field that nodes are made of is found under no other name. -/
theorem lookup_growFields_eq_none {key : Text} (h : ∀ field ∈ fields, field.1 ≠ key)
    (i : ℕ) : (growFields address i fields).lookup key = none := by
  induction fields generalizing i with
  | nil => rfl
  | cons field rest ih =>
    obtain ⟨name, value⟩ := field
    have hne : (key == name) = false := by
      simpa using (h (name, value) List.mem_cons_self).symm
    rw [growFields, List.lookup_cons, hne]
    exact ih (fun other hother => h other (List.mem_cons_of_mem _ hother)) (i + 1)

/-- The position of a node stands under none of the other keys. -/
theorem lookup_position {key : String} (hstart : key ≠ "start") (hspan : key ≠ "span") :
    (p.position placement address).lookup (Text.ofString key) = none := by
  have hne : ∀ n, Text.ofString key ≠ (p.placeField n).1 := by
    intro n h
    cases p with
    | babel => exact hstart (Text.ofString_inj.1 h)
    | oxc => exact hstart (Text.ofString_inj.1 h)
    | swc => exact hspan (Text.ofString_inj.1 h)
  unfold position
  cases placement.start? address with
  | none => rfl
  | some n => simp [hne n]

/-- **A field of a node** is one of those that the node was made of. -/
theorem field_node {key : String} (htype : key ≠ "type") (hstart : key ≠ "start")
    (hspan : key ≠ "span") :
    (p.node placement type fields address).field key
      = ((growFields address 0 fields).lookup (Text.ofString key)).getD .null := by
  have hne : (Text.ofString key == Text.ofString "type") = false := by simp [htype]
  show Option.getD (List.lookup (Text.ofString key)
    ((Text.ofString "type", _) :: (growFields address 0 fields ++ _))) Json.null = _
  -- It is neither the type in front nor the position at the end.
  rw [List.lookup_cons, hne]
  show Option.getD (List.lookup (Text.ofString key) (growFields address 0 fields ++ _)) _ = _
  rw [List.lookup_append, lookup_position hstart hspan, Option.or_none]

/-- **The position of a node**, if no other field has the name of its field. -/
theorem offset?_node (h : ∀ field ∈ fields,
    field.1 ≠ Text.ofString "start" ∧ field.1 ≠ Text.ofString "span") :
    p.dialect.offset? (p.node placement type fields address)
      = (placement.start? address).map Int.ofNat := by
  have hplace : ∀ key : String, key = "start" ∨ key = "span" →
      (p.node placement type fields address).field key
        = ((p.position placement address).lookup (Text.ofString key)).getD .null := by
    intro key hkey
    have hnone : (growFields address 0 fields).lookup (Text.ofString key) = none := by
      apply lookup_growFields_eq_none
      intro field hfield
      rcases hkey with rfl | rfl
      · exact (h field hfield).1
      · exact (h field hfield).2
    have hne : (Text.ofString key == Text.ofString "type") = false := by
      rcases hkey with rfl | rfl <;> rfl
    show Option.getD (List.lookup (Text.ofString key)
      ((Text.ofString "type", _) :: (growFields address 0 fields ++ _))) Json.null = _
    rw [List.lookup_cons, hne]
    show Option.getD (List.lookup (Text.ofString key) (growFields address 0 fields ++ _)) _ = _
    rw [List.lookup_append, hnone, Option.none_or]
  cases p with
  | babel =>
    show (Json.field _ "start").int? = _
    rw [hplace "start" (.inl rfl), position]
    cases placement.start? address <;> rfl
  | oxc =>
    show (Json.field _ "start").int? = _
    rw [hplace "start" (.inl rfl), position]
    cases placement.start? address <;> rfl
  | swc =>
    show ((Json.field _ "span").field "start").int? = _
    rw [hplace "span" (.inr rfl), position]
    cases placement.start? address <;> rfl

/-! ## Names and strings -/

/-- A name spells its text, whether it is an identifier or a string. -/
theorem spelledName_name (n : Name) :
    p.dialect.spelledName (p.name placement n address) = .str n.text := by
  cases n <;> cases p <;> rfl

/-- A literal that shows a text is read as that text. -/
theorem literal?_textLiteral (t : Text) :
    p.dialect.literal? (p.textLiteral placement t address) = some t := by
  cases p <;> rfl

theorem literal?_literal (l : Literal) :
    p.dialect.literal? (p.literal placement l address) = some l.text :=
  literal?_textLiteral l.text

theorem spelledName_null : p.dialect.spelledName .null = .null := by
  cases p <;> rfl

/-- An expression that is computed is read as no string. -/
theorem literal?_computed (expression : Computed) :
    p.dialect.literal? (expression.object p).json = none := by
  have hplain := expression.object_isPlain p
  simp only [Json.hasTypeIn, List.any_cons, List.any_nil, Bool.or_false, Bool.or_eq_true] at hplain
  cases p with
  | babel =>
    show (if (expression.object .babel).json.hasType "StringLiteral" = true then _ else none) = none
    by_cases hstring : (expression.object .babel).json.hasType "StringLiteral" = true
    · rw [if_pos hstring, hplain (.inr hstring)]
    · rw [if_neg hstring]
  | oxc =>
    show (if (expression.object .oxc).json.hasTypeIn ["Literal", "StringLiteral"] = true then _
      else none) = none
    by_cases hstring : (expression.object .oxc).json.hasTypeIn ["Literal", "StringLiteral"] = true
    · rw [if_pos hstring, expression.object_isPlain .oxc hstring]
    · rw [if_neg hstring]
  | swc =>
    show (if (expression.object .swc).json.hasType "StringLiteral" = true then _ else none) = none
    by_cases hstring : (expression.object .swc).json.hasType "StringLiteral" = true
    · rw [if_pos hstring, hplain (.inr hstring)]
    · rw [if_neg hstring]

theorem isNull_name (n : Name) : (p.name placement n address).isNull = false := by
  cases n <;> rfl

/-! ## Tags -/

/-- A specifier without an alias and without a name of its own exports nothing, in every dialect.
-/
theorem exportedName_of_null {spec : Json} (hexported : spec.field "exported" = .null)
    (horig : spec.field "orig" = .null) :
    p.dialect.toDialect.exportedName spec = .ok .null := by
  have hnode : p.dialect.exported spec = .null := by
    cases p with
    | babel => exact hexported
    | oxc => exact hexported
    | swc =>
      show (if (spec.field "exported").isNull = true then spec.field "orig" else _) = Json.null
      rw [hexported, horig]
      rfl
  show Except.ok (p.dialect.spelledName (p.dialect.exported spec)) = _
  rw [hnode, spelledName_null]

/-- **The tag of a specifier** is that of the specifier it encodes. -/
theorem tag_specifier (s : Specifier) :
    p.dialect.toDialect.tag (p.specifier placement s address) = .ok s.tag := by
  cases s with
  | defaultBinding bound => exact Dialect.tag_default rfl
  | namespaceBinding bound =>
    apply Dialect.tag_namespace rfl
    apply exportedName_of_null
    · exact field_node (by decide) (by decide) (by decide)
    · exact field_node (by decide) (by decide) (by decide)
  | named imported bound =>
    have hexported : p.dialect.toDialect.exportedName
        (p.specifier placement (.named imported bound) address) = .ok .null := by
      apply exportedName_of_null
      · refine (field_node (by decide) (by decide) (by decide)).trans ?_
        cases p <;> rfl
      · refine (field_node (by decide) (by decide) (by decide)).trans ?_
        cases p <;> rfl
    have hfirst : p.dialect.toDialect.firstName
        (p.specifier placement (.named imported bound) address) = .ok (.str imported.text) := by
      -- Only one parser may leave out what is imported.
      cases p with
      | babel => exact Dialect.firstName_imported (congrArg Except.ok (spelledName_name imported))
      | oxc => exact Dialect.firstName_imported (congrArg Except.ok (spelledName_name imported))
      | swc =>
        cases bound with
        | some other =>
          exact Dialect.firstName_imported (congrArg Except.ok (spelledName_name imported))
        | none =>
          -- The imported name is `null`, and the local one takes its place.
          have htaken : (swc.specifier placement (.named imported none) address).field "orig"
              = .null := field_node (by decide) (by decide) (by decide)
          apply Dialect.firstName_local rfl
          · show Except.ok (swc.dialect.spelledName (Json.field _ "orig")) = _
            rw [htaken]
            rfl
          · exact congrArg Except.ok (spelledName_name imported)
    exact Dialect.tag_oneName rfl hexported hfirst

/-- **The tag of an exported name** is that of the binding it encodes. -/
theorem tag_binding (b : Binding) :
    p.dialect.toDialect.tag (p.binding placement b address) = .ok b.tag := by
  have habsent : (p.binding placement b address).field "imported" = .null := by
    refine (field_node (by decide) (by decide) (by decide)).trans ?_
    cases p <;> rfl
  have himported : p.dialect.toDialect.importedName (p.binding placement b address)
      = .ok .null := by
    show Except.ok (p.dialect.spelledName (Json.field _ "imported")) = _
    rw [habsent, spelledName_null]
  have hexported : p.dialect.toDialect.exportedName (p.binding placement b address)
      = .ok (.str b.exported.text) := by
    obtain ⟨original, alias?⟩ := b
    cases p with
    | babel => exact congrArg Except.ok (spelledName_name _)
    | oxc => exact congrArg Except.ok (spelledName_name _)
    | swc =>
      cases alias? with
      | none => exact congrArg Except.ok (spelledName_name _)
      | some other =>
        show Except.ok (Swc.spelledName (if (swc.name placement other (address ++ [1])).isNull = true
          then _ else _)) = _
        rw [isNull_name, if_neg Bool.false_ne_true]
        exact congrArg Except.ok (spelledName_name (p := swc) other)
  have hfirst : p.dialect.toDialect.firstName (p.binding placement b address)
      = .ok (.str b.original.text) := by
    cases p with
    | babel =>
      exact Dialect.firstName_local himported rfl (congrArg Except.ok (spelledName_name _))
    | oxc =>
      exact Dialect.firstName_local himported rfl (congrArg Except.ok (spelledName_name _))
    | swc => exact Dialect.firstName_taken himported (congrArg Except.ok (spelledName_name _))
  exact Dialect.tag_oneName rfl hexported hfirst

/-! ## Declarations -/

section Declarations

variable {word : String} {front : List (String × Planted Json)} {source : Planted Json}
  {attributes : List Attribute}

/-- The fields in front of the source are found under their own names only. -/
theorem lookup_named_append {key : String} (hfront : ∀ field ∈ front, field.1 ≠ key)
    (rest : List (String × Planted Json)) (i : ℕ) :
    (growFields address i (named (front ++ rest))).lookup (Text.ofString key)
      = (growFields address (i + front.length) (named rest)).lookup (Text.ofString key) := by
  induction front generalizing i with
  | nil => rfl
  | cons field front ih =>
    obtain ⟨name, value⟩ := field
    have hne : (Text.ofString key == Text.ofString name) = false := by
      simpa using (hfront (name, value) List.mem_cons_self).symm
    have hlength : i + (front.length + 1) = i + 1 + front.length := by omega
    show List.lookup _ ((Text.ofString name, _) :: _) = _
    rw [List.lookup_cons, hne, List.length_cons, hlength]
    exact ih (fun other hother => hfront other (List.mem_cons_of_mem _ hother)) (i + 1)

/-- The fields in front of the source of a declaration are neither the source nor its attributes.
-/
def IsFront (front : List (String × Planted Json)) : Prop :=
  ∀ field ∈ front, field.1 ∈ ["declaration", "specifiers"]

/-- **A field of a declaration** that is not in front of its source. -/
theorem field_declaration (hfront : IsFront front) {key : String}
    (hkey : key ∉ ["type", "start", "span", "declaration", "specifiers"]) :
    (p.declaration placement word front source attributes address).field key
      = ((growFields address front.length
          (named [("source", source), p.attributesField placement attributes])).lookup
            (Text.ofString key)).getD .null := by
  simp only [List.mem_cons, List.not_mem_nil, or_false, not_or] at hkey
  obtain ⟨htype, hstart, hspan, hdeclaration, hspecifiers⟩ := hkey
  have hne : ∀ field ∈ front, field.1 ≠ key := by
    rintro field hfield rfl
    rcases List.mem_cons.1 (hfront field hfield) with h | h
    · exact hdeclaration h
    · exact hspecifiers (List.mem_singleton.1 h)
  rw [declaration, plainNode, field_node htype hstart hspan, lookup_named_append hne,
    Nat.zero_add]

/-- The source of a declaration is found behind the fields in front of it. -/
theorem field_source (hfront : IsFront front) :
    (p.declaration placement word front source attributes address).field "source"
      = source (address ++ [front.length]) := by
  rw [field_declaration hfront (by decide)]
  rfl

/-- The first attribute is asked first, as in the definition of what is asserted. -/
theorem typeAttribute?_cons (d : ObjectDialect) (a : Json) (rest : List Json) :
    d.typeAttribute? (a :: rest)
      = if (d.spelledName (a.field "key")).isText "type" then d.literal? (a.field "value")
        else d.typeAttribute? rest := by
  unfold ObjectDialect.typeAttribute?
  rw [List.find?_cons]
  cases (d.spelledName (a.field "key")).isText "type" <;> rfl

/-- **The type among attributes** is that of the attributes they encode. -/
theorem typeAttribute?_grow (attributes : List Attribute) (address : List ℕ) (i : ℕ) :
    p.dialect.typeAttribute? (grow address i (attributes.map (p.attributeNode placement)))
      = assertion? attributes := by
  induction attributes generalizing i with
  | nil => rfl
  | cons a rest ih =>
    have hkey : (p.attributeNode placement a (address ++ [i])).field "key"
        = p.name placement a.key (address ++ [i] ++ [0]) := by
      cases p <;> rfl
    have hvalue : (p.attributeNode placement a (address ++ [i])).field "value"
        = p.literal placement a.value (address ++ [i] ++ [1]) := by
      cases p <;> rfl
    rw [List.map_cons, grow, typeAttribute?_cons, hkey, hvalue, spelledName_name,
      literal?_literal, ih, assertion?_cons]
    rfl

/-- Attributes in a list are asked in order, and without a list there are none. -/
theorem assertion?_of_attributes {node : Json} {nodes : List Json}
    (h : p.dialect.attributes node = .arr nodes ∨ p.dialect.attributes node = .null ∧ nodes = []) :
    p.dialect.toDialect.assertion? node = .ok (p.dialect.typeAttribute? nodes) := by
  show p.dialect.assertion? node = _
  rcases h with h | ⟨h, rfl⟩
  · rw [ObjectDialect.assertion?, h]
    cases nodes <;> rfl
  · rw [ObjectDialect.assertion?, h]
    rfl

/-- **The type that a declaration asserts** is that of its attributes, wherever
the parser keeps them. -/
theorem assertion?_declaration (hfront : IsFront front) :
    p.dialect.toDialect.assertion?
        (p.declaration placement word front source attributes address)
      = .ok (assertion? attributes) := by
  cases p with
  | babel =>
    have hfield : (babel.declaration placement word front source attributes address).field
        "attributes" = list (attributes.map (babel.attributeNode placement))
          (address ++ [front.length + 1]) := by
      rw [field_declaration hfront (by decide)]
      rfl
    have hold : (babel.declaration placement word front source attributes address).field
        "assertions" = .null := by
      rw [field_declaration hfront (by decide)]
      rfl
    rw [← typeAttribute?_grow (p := babel) attributes (address ++ [front.length + 1]) 0]
    apply assertion?_of_attributes
    show Json.orElse _ _ = _ ∨ Json.orElse _ _ = _ ∧ _
    rw [hfield, hold]
    cases attributes with
    | nil => exact .inr ⟨rfl, rfl⟩
    | cons a rest => exact .inl rfl
  | oxc =>
    have hfield : (oxc.declaration placement word front source attributes address).field
        "attributes" = list (attributes.map (oxc.attributeNode placement))
          (address ++ [front.length + 1]) := by
      rw [field_declaration hfront (by decide)]
      rfl
    rw [← typeAttribute?_grow (p := oxc) attributes (address ++ [front.length + 1]) 0]
    apply assertion?_of_attributes
    show (if (Json.field _ "attributes").isNull = true then _ else _) = _ ∨ _
    rw [hfield]
    exact .inl rfl
  | swc =>
    have hfield : (swc.declaration placement word front source attributes address).field "with"
        = swc.clause placement attributes (address ++ [front.length + 1]) := by
      rw [field_declaration hfront (by decide)]
      rfl
    have hold : (swc.declaration placement word front source attributes address).field "asserts"
        = .null := by
      rw [field_declaration hfront (by decide)]
      rfl
    -- The attributes are one level deeper, in the properties of the clause.
    rw [← typeAttribute?_grow (p := swc) attributes (address ++ [front.length + 1] ++ [0]) 0]
    apply assertion?_of_attributes
    show Json.field (Json.orElse _ _) "properties" = _
      ∨ Json.field (Json.orElse _ _) "properties" = _ ∧ _
    rw [hfield, hold]
    cases attributes with
    | nil => exact .inr ⟨rfl, rfl⟩
    | cons a rest => exact .inl rfl

/-- **What a declaration says of the other module.** -/
theorem refers_textSource (hfront : IsFront front) {t : Text} (ht : t ≠ []) :
    p.dialect.toDialect.Refers
      (p.declaration placement word front (p.textLiteral placement t) attributes address)
      t (assertion? attributes) where
  reads_source := by
    show Except.ok (p.dialect.literal? (Json.field _ "source")) = _
    rw [field_source hfront, literal?_textLiteral]
  nonempty := ht
  reads_assertion := assertion?_declaration hfront

/-- **A declaration refers to its source** with the type that its attributes assert. -/
theorem refers_declaration (hfront : IsFront front) (s : Source) :
    p.dialect.toDialect.Refers
      (p.declaration placement word front (p.literal placement s.toLiteral) attributes address)
      s.text (assertion? attributes) :=
  refers_textSource hfront fun h => s.chars_ne (List.map_eq_nil_iff.1 h)

end Declarations

end ObjectParser

end ModuleLinks

/-
Logical modules.

The four kinds of trees are four ways to write down one thing: a program of
imports, exports and dynamic imports. That thing is a **logical module** here,
and it says what no parser disagrees on: the names and sources as texts, which
names have an alias, and what stands around a dynamic import.

Some choices of the author of the program are kept because parsers show them: a
name is written as an identifier or as a string, and a string is written with or
without escapes. None of them matters for the links of a module, which are
defined here from the texts alone.

The rest of the program is not taken apart. What a dynamic import is called with
when it is no string, and what stands around it, is written by every parser in its
own way, with its own types and fields and with other nodes between. All that is
asked of it is that no node in it refers to another module.
-/
import ModuleLinks.Proofs.Document
import ModuleLinks.Proofs.Yields

set_option autoImplicit false

namespace ModuleLinks

/-- A text that is none of the words is not this one of them. -/
theorem Text.is_eq_false {t : Text} {words : List String} (h : t.isOneOf words = false)
    {word : String} (hword : word ∈ words) : t.is word = false := by
  rw [Bool.eq_false_iff]
  intro his
  have hone : t.isOneOf words = true := List.any_eq_true.2 ⟨word, hword, his⟩
  rw [h] at hone
  cases hone

namespace Code

/-! ## Names and strings -/

/-- **A piece of a string literal.** -/
inductive Piece where
  /-- Characters that stand for themselves. -/
  | run (chars : List Char)
  /-- An escape, as it is written and as the characters that it denotes. -/
  | escape (written denoted : List Char)
      (decodes : Escape.decode (Text.ofChars written) = .ok (Text.ofChars denoted))

/-- The characters that a piece stands for. -/
def Piece.chars : Piece → List Char
  | .run chars => chars
  | .escape _ denoted _ => denoted

/-- **A string literal**, piece by piece. -/
structure Literal where
  pieces : List Piece

/-- The characters that a literal stands for. -/
def Literal.chars (l : Literal) : List Char := l.pieces.flatMap Piece.chars

/-- The text of a literal, in which nothing is left of its escapes. -/
def Literal.text (l : Literal) : Text := Text.ofChars l.chars

/-- **A source**: a string literal that is not empty. -/
structure Source extends Literal where
  chars_ne : toLiteral.chars ≠ []

/-- **A name** of an export, as the author of the program wrote it. -/
inductive Name where
  | identifier (chars : List Char)
  | string (l : Literal)

/-- The text of a name, however it is written. -/
def Name.text : Name → Text
  | .identifier chars => Text.ofChars chars
  | .string l => l.text

/-! ## Specifiers and attributes -/

/-- **A specifier** of an import: what is taken from the other module. -/
inductive Specifier where
  /-- The default export, under a name of this module. -/
  | defaultBinding (bound : List Char)
  /-- The whole module, under a name of this module. -/
  | namespaceBinding (bound : List Char)
  /-- An export by name, maybe under another name in this module. -/
  | named (imported : Name) (bound : Option Name)

/-- The tag of a specifier: what it takes from the other module. -/
def Specifier.tag : Specifier → Json
  | .defaultBinding _ => Link.defaultTag
  | .namespaceBinding _ => Link.namespaceTag
  | .named imported _ => .str imported.text

/-- **A part of an import clause.** Named specifiers stand together in braces. -/
inductive Part where
  | defaultBinding (bound : List Char)
  | namespaceBinding (bound : List Char)
  /-- Exports by name, each with an alias or without one. -/
  | named (group : List (Name × Option Name))

/-- A group of names has a specifier for each. -/
def Part.specifiers : Part → List Specifier
  | .defaultBinding bound => [.defaultBinding bound]
  | .namespaceBinding bound => [.namespaceBinding bound]
  | .named group => group.map fun entry => .named entry.1 entry.2

/-- **A name that is exported**, maybe under another name. -/
structure Binding where
  original : Name
  /-- The name under which it is exported, if that is another one. -/
  alias? : Option Name

/-- The name under which a binding is exported. -/
def Binding.exported (b : Binding) : Name := b.alias?.getD b.original

/-- The tag of a binding. An export as `default` is the default export of this
module, whatever it is in the other one. -/
def Binding.tag (b : Binding) : Json :=
  if b.exported.text.is "default" then Link.defaultTag else .str b.original.text

/-- **An import attribute**: a key and a string. -/
structure Attribute where
  key : Name
  value : Literal

/-- **The tags of a list of specifiers.** A module that is imported without any is
loaded as a file. -/
def tagsOf {α : Type} (tag : α → Json) (specifiers : List α) : List Json :=
  if specifiers.isEmpty then [Link.fileTag] else specifiers.map tag

/-- The type that attributes assert: the value of the first with the key `type`. -/
def assertion? (attributes : List Attribute) : Option Text :=
  (attributes.find? fun a => a.key.text.is "type").map fun a => a.value.text

theorem assertion?_cons (a : Attribute) (rest : List Attribute) :
    assertion? (a :: rest)
      = if a.key.text.is "type" then some a.value.text else assertion? rest := by
  rw [assertion?, List.find?_cons]
  cases a.key.text.is "type" <;> rfl

/-! ## What refers to no other module -/

/-- The types of object trees that refer to other modules. -/
def objectForms : List String :=
  ["ImportDeclaration", "ExportNamedDeclaration", "ExportAllDeclaration", "CallExpression",
   "ImportExpression"]

/-- The types of parse trees that refer to other modules. -/
def treeForms : List String := ["import_statement", "export_statement", "call_expression"]

end Code

/-- **A reference** in an object tree: a declaration of imports or exports, or an import while the
module runs, which is a call of the import keyword or an expression of its own. -/
def Json.isReference (node : Json) : Bool :=
  node.hasTypeIn
      ["ImportDeclaration", "ExportNamedDeclaration", "ExportAllDeclaration", "ImportExpression"]
    || node.hasType "CallExpression" && (node.field "callee").hasType "Import"

/-- **A reference** in a parse tree. -/
def ParseNode.isReference (node : ParseNode) : Bool :=
  node.type.isOneOf ["import_statement", "export_statement"]
    || node.hasType "call_expression" && (node.child? "function").any (·.hasType "import")

/-- A node whose type refers to nothing is no reference. -/
theorem ParseNode.isReference_of_type {node : ParseNode}
    (h : node.type.isOneOf Code.treeForms = false) : node.isReference = false := by
  have himport : node.type.is "import_statement" = false := Text.is_eq_false h (by decide)
  have hexport : node.type.is "export_statement" = false := Text.is_eq_false h (by decide)
  have hcall : node.hasType "call_expression" = false := Text.is_eq_false h (by decide)
  simp [isReference, Text.isOneOf, himport, hexport, hcall]

/-- **The parsers that write JSON.** -/
inductive ObjectParser where
  | babel
  | oxc
  | swc

namespace Code

/-- **A value of an object tree without references**: a text, a number, a node or a list with
whatever is in it, as long as nothing in it refers to another module. -/
structure Value where
  json : Json
  isFree : json.Everywhere fun node => node.isReference = false

/-- **A field of a node** that says neither what the node is nor where it begins, and refers to no
other module. -/
structure Field where
  name : Text
  value : Value
  name_isFree : name.isOneOf ["type", "start", "span"] = false

/-- **A parse tree without references**, wherever it is planted. -/
structure Tree where
  planted : Planted ParseNode
  isFree : ∀ address, (planted address).Throughout fun node => node.isReference = false

/-- **An expression that is computed** when the module runs, in the shape of every parser. It can be
an identifier, a call, a template, as long as it is no string. -/
structure Computed where
  object : ObjectParser → Value
  tree : Tree
  object_isNode : ∀ p, (object p).json.isObject = true
  object_isPlain : ∀ p, (object p).json.hasTypeIn ["Literal", "StringLiteral"] = true →
    ((object p).json.field "value").text? = none
  tree_isNode : ∀ address, (tree.planted address).isNamed = true
  tree_isPlain : ∀ address, (tree.planted address).type.isOneOf ["string", "comment"] = false

/-- **What a dynamic import is called with.** -/
inductive Argument where
  | literal (source : Source)
  | computed (expression : Computed)

/-- The text of the source, if it stands in the program. -/
def Argument.text? : Argument → Option Text
  | .literal source => some source.text
  | .computed _ => none

theorem Argument.text?_ne (argument : Argument) : argument.text? ≠ some [] := by
  cases argument with
  | literal source => exact fun h => source.chars_ne (List.map_eq_nil_iff.1 (Option.some.inj h))
  | computed _ => exact nofun

/-! ## What stands around a dynamic import -/

/-- **The name of a field** that holds nodes of the program. -/
structure Key where
  name : Text
  /-- It is not one of the names that describe the node itself. -/
  holdsNodes : name.isOneOf ("type" :: "start" :: Json.metadataKeys) = false

/-- The names that describe a node itself are not the name of such a field. -/
theorem Key.name_ne (key : Key) {word : String}
    (h : word ∈ "type" :: "start" :: Json.metadataKeys) : key.name ≠ Text.ofString word := by
  have his := Text.is_eq_false key.holdsNodes h
  rw [Bool.eq_false_iff] at his
  exact fun heq => his ((Text.is_iff _ _).2 heq)

/-- Nor is it one of the names that a survey passes over. -/
theorem Key.isOneOf_metadataKeys (key : Key) : key.name.isOneOf Json.metadataKeys = false := by
  have h := key.holdsNodes
  simp only [Text.isOneOf, List.any_cons, Bool.or_eq_false_iff] at h
  exact h.2.2

/-- **A node of an object tree around another node**: the field in which the other one stands, on
its own or in a list between others, and the fields before and behind that one. -/
structure ObjectWrapper where
  type : Text
  /-- The node is neither a declaration of imports or exports nor a call. -/
  type_isFree : type.isOneOf objectForms = false
  before : List Field
  key : Key
  /-- The members of the list to the left and to the right of the other node, if it stands in one. -/
  beside? : Option (List Value × List Value)
  after : List Field

/-- **A node of a parse tree around another node.** -/
structure TreeWrapper where
  type : Text
  /-- The node is neither a statement of imports or exports nor a call. -/
  type_isFree : type.isOneOf treeForms = false
  bytes : List UInt8
  before : List Tree
  /-- The field in which the other node stands, if it has a name. -/
  field : Option String
  after : List Tree

/-- **What stands around a dynamic import**, in the shape of every parser, the outermost first. -/
structure Surroundings where
  object : ObjectParser → List ObjectWrapper
  tree : List TreeWrapper

/-- Nothing at all: the import is an item by itself. -/
def Surroundings.none : Surroundings := ⟨fun _ => [], []⟩

/-! ## Items -/

/-- **An item of a module.** -/
inductive Item where
  | importing (clause : List Part) (source : Source) (attributes : List Attribute)
  /-- An export of names that come from another module. -/
  | reexport (bindings : List Binding) (source : Source) (attributes : List Attribute)
  | reexportAll (source : Source) (attributes : List Attribute)
  /-- An export of names of this module. -/
  | exportList (bindings : List Binding)
  /-- A dynamic import inside other nodes. -/
  | dynamic (around : Surroundings) (argument : Argument)

/-- **Where the nodes of a tree begin**, by their addresses. Some nodes have no
position, or all. The items of a module have theirs in the order of the module. -/
structure Placement where
  start? : List ℕ → Option ℕ
  /-- An item does not begin before an earlier one. -/
  ascends : ∀ i j, i ≤ j → ∀ p ∈ start? [i], ∀ q ∈ start? [j], p ≤ q

/-- **The link of an item**, from its texts alone. -/
def Item.link? : Item → Option Link
  | .importing clause source attributes =>
    some
      { specifiers := tagsOf Specifier.tag (clause.flatMap Part.specifiers)
        source := .str source.text
        assertion := Json.ofText? (assertion? attributes) }
  | .reexport bindings source attributes =>
    some
      { specifiers := tagsOf Binding.tag bindings
        source := .str source.text
        assertion := Json.ofText? (assertion? attributes) }
  | .reexportAll source attributes =>
    some
      { specifiers := [Link.namespaceTag]
        source := .str source.text
        assertion := Json.ofText? (assertion? attributes) }
  | .exportList _ => none
  | .dynamic _ argument =>
    some
      { specifiers := [Link.defaultTag]
        source := argument.text?.elim Link.computedSource Json.str }

/-- **The links of a module**, in the order of its items. -/
def links (items : List Item) : List Link := items.filterMap Item.link?

end Code

/-- A tree without positions. -/
def unplaced : Code.Placement where
  start? _ := none
  ascends _ _ _ _ h := nomatch h

end ModuleLinks

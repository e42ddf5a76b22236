/-
Independence of the parser.

A logical module can be written as four trees, one for each parser. The trees
have little in common: they differ in their types, in their fields, in what they
leave out, in how a name is spelled. The links do not differ. They are those
that the module has by its own definition, in the order of its items, and no
parser gives a reason for a warning.

The positions of the nodes are the same for all parsers here, but nothing rests
on that: they are arbitrary, save that items come in order.
-/
import ModuleLinks.Proofs.ObjectSurvey
import ModuleLinks.Proofs.TreeSurvey

set_option autoImplicit false

namespace ModuleLinks

/-- **A module in the shape of a parser**, ready for a survey. -/
def Code.encode (placement : Code.Placement) (items : List Code.Item) : DialectName → Subject
  | .babel => .json (ObjectParser.babel.program placement items)
  | .swc => .json (ObjectParser.swc.program placement items)
  | .oxc => .json (ObjectParser.oxc.program placement items)
  | .treeSitter => .tree (ParseTree.program placement items)

/-- The root of a module in the shape of a parser. -/
def Code.root (placement : Code.Placement) (items : List Code.Item) : (name : DialectName) → name.Node
  | .babel => ObjectParser.babel.program placement items
  | .swc => ObjectParser.swc.program placement items
  | .oxc => ObjectParser.oxc.program placement items
  | .treeSitter => ParseTree.program placement items

/-- Every dialect accepts the root that its parser makes. -/
theorem Code.root_encode (placement : Code.Placement) (items : List Code.Item)
    (name : DialectName) :
    name.dialect.root (Code.encode placement items name) = .ok (Code.root placement items name) := by
  cases name with
  | babel => exact ObjectParser.root_program (p := .babel) items
  | swc => exact ObjectParser.root_program (p := .swc) items
  | oxc => exact ObjectParser.root_program (p := .oxc) items
  | treeSitter => exact ParseTree.root_program items

/-- **The tree of every parser yields the links of the module.** -/
theorem Code.yields_root (placement : Code.Placement) (items : List Code.Item)
    (name : DialectName) :
    name.dialect.Yields (Code.root placement items name) (Code.links items) := by
  cases name with
  | babel => exact ObjectParser.yields_program (p := .babel) items
  | swc => exact ObjectParser.yields_program (p := .swc) items
  | oxc => exact ObjectParser.yields_program (p := .oxc) items
  | treeSitter => exact ParseTree.yields_program items

/-- **The links of a module do not depend on the parser.** Whatever names, aliases,
attributes and nodes around dynamic imports it has, its survey finds its links,
in order, and logs nothing after the record of the beginning. -/
theorem survey_encode (placement : Code.Placement) (items : List Code.Item) (file : Json)
    (name : DialectName) :
    name.survey file (Code.encode placement items name)
      = ⟨[⟨.debug, name.dialect.opening file⟩], .ok (Code.links items)⟩ :=
  Dialect.survey_of_yields (Code.root_encode placement items name)
    (Code.yields_root placement items name) file

/-- An alias counts where a name is exported, and not where it is imported. -/
example :
    Code.links
      [.importing [.named [(.identifier "a".toList, some (.identifier "default".toList))]]
        ⟨⟨[.run "./m.js".toList]⟩, by decide⟩ [],
      .reexport [⟨.identifier "a".toList, some (.string ⟨[.run "default".toList]⟩)⟩]
        ⟨⟨[.run "./m.js".toList]⟩, by decide⟩ []]
      = [{ specifiers := [.ofString "a"], source := .ofString "./m.js" },
        { specifiers := [Link.defaultTag], source := .ofString "./m.js" }] := by
  rfl

namespace Code

/-- A token of the program, which refers to nothing. -/
def tokenTree (word : String) (h : (Text.ofString word).isOneOf treeForms = false) : Tree where
  planted := ParseTree.token unplaced word
  isFree _ := ParseNode.throughout_iff.2 ⟨ParseNode.isReference_of_type h, nofun⟩

/-- A name in a field of its parent. -/
def nameTree (field name : String) : Tree where
  planted := ParseTree.leaf unplaced "identifier" (some field) name.toList
  isFree _ := ParseNode.throughout_iff.2 ⟨rfl, nofun⟩

/-- A name as an object tree. -/
def nameValue (p : ObjectParser) (name : String) : Value where
  json := .obj [(Text.ofString "type", .ofString "Identifier"),
    (Text.ofString p.nameKey, .ofString name)]
  isFree := by
    refine Json.Everywhere.obj_iff.2 ⟨rfl, List.forall_mem_cons.2 ⟨?_, List.forall_mem_cons.2 ⟨?_, nofun⟩⟩⟩
    · exact .of_not_isContainer rfl rfl
    · exact .of_not_isContainer rfl rfl

/-- The call `getPath()`, which is neither a string nor an import. -/
def pathCall : Computed where
  object p :=
    { json := .obj
        [(Text.ofString "type", .ofString "CallExpression"),
          (Text.ofString "callee", (nameValue p "getPath").json),
          (Text.ofString "arguments", .arr [])]
      isFree := by cases p <;> decide }
  tree :=
    { planted := ParseTree.plainBranch unplaced "call_expression" none
        [(nameTree "function" "getPath").planted,
          ParseTree.plainBranch unplaced "arguments" (some "arguments")
            [ParseTree.token unplaced "(", ParseTree.token unplaced ")"]]
      isFree := fun _ => ParseNode.throughout_iff.2 ⟨rfl, List.forall_mem_cons.2
        ⟨(nameTree "function" "getPath").isFree _, List.forall_mem_singleton.2
          (ParseNode.throughout_iff.2 ⟨rfl, List.forall_mem_cons.2
            ⟨(tokenTree "(" rfl).isFree _, List.forall_mem_singleton.2
              ((tokenTree ")" rfl).isFree _)⟩⟩)⟩⟩ }
  object_isNode _ := rfl
  object_isPlain p := by cases p <;> decide
  tree_isNode _ := rfl
  tree_isPlain _ := rfl

/-- What stands around the import in `const page = await import(getPath());`. -/
def constantPage : Surroundings where
  object p :=
    [{ type := Text.ofString "VariableDeclaration"
       type_isFree := by decide
       before := [⟨Text.ofString "kind", ⟨.ofString "const", by decide⟩, by decide⟩]
       key := ⟨Text.ofString "declarations", by decide⟩
       beside? := some ([], [])
       after := [] },
      { type := Text.ofString "VariableDeclarator"
        type_isFree := by decide
        before := [⟨Text.ofString "id", nameValue p "page", by decide⟩]
        key := ⟨Text.ofString "init", by decide⟩
        beside? := none
        after := [] },
      { type := Text.ofString "AwaitExpression"
        type_isFree := by decide
        before := []
        key := ⟨Text.ofString "argument", by decide⟩
        beside? := none
        after := [] }]
  tree :=
    [{ type := Text.ofString "lexical_declaration"
       type_isFree := by decide
       bytes := Utf8.encode "const page = await import(getPath());".toList
       before := [tokenTree "const" (by decide)]
       field := none
       after := [tokenTree ";" (by decide)] },
      { type := Text.ofString "variable_declarator"
        type_isFree := by decide
        bytes := Utf8.encode "page = await import(getPath())".toList
        before := [nameTree "name" "page", tokenTree "=" (by decide)]
        field := some "value"
        after := [] },
      { type := Text.ofString "await_expression"
        type_isFree := by decide
        bytes := Utf8.encode "await import(getPath())".toList
        before := [tokenTree "await" (by decide)]
        field := none
        after := [] }]

/-- In Babel's shape this is the tree that one would write down. -/
example :
    encode unplaced [.dynamic constantPage (.computed pathCall)] .babel
      = .json (.obj [(Text.ofString "type", .ofString "Program"), (Text.ofString "body", .arr [.obj
        [(Text.ofString "type", .ofString "VariableDeclaration"),
          (Text.ofString "kind", .ofString "const"),
          (Text.ofString "declarations", .arr [.obj
            [(Text.ofString "type", .ofString "VariableDeclarator"),
              (Text.ofString "id", .obj
                [(Text.ofString "type", .ofString "Identifier"),
                  (Text.ofString "name", .ofString "page")]),
              (Text.ofString "init", .obj
                [(Text.ofString "type", .ofString "AwaitExpression"),
                  (Text.ofString "argument", .obj
                    [(Text.ofString "type", .ofString "CallExpression"),
                      (Text.ofString "callee", .obj
                        [(Text.ofString "type", .ofString "Import")]),
                      (Text.ofString "arguments", .arr [.obj
                        [(Text.ofString "type", .ofString "CallExpression"),
                          (Text.ofString "callee", .obj
                            [(Text.ofString "type", .ofString "Identifier"),
                              (Text.ofString "name", .ofString "getPath")]),
                          (Text.ofString "arguments", .arr [])]])])])]])]])]) := by
  rfl

end Code

end ModuleLinks

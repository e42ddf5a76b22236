/-
From a declaration to its link.

Every declaration that refers to another module makes at most one link. A
**tag** stands for each of its specifiers; a declaration without specifiers
loads the other module as a file. A dynamic import binds the default export of
whatever its argument names, and if the argument is no literal its target is
computed.

A declaration that should make a link and cannot is malformed. What is missed
first decides the report: names before the source, the source before the
asserted type.
-/
import ModuleLinks.Dialect.Basic
import ModuleLinks.Link.Basic

set_option autoImplicit false

namespace ModuleLinks.Dialect

variable {ν : Type}

/-- The report that a declaration makes no link. -/
def malformed (d : Dialect ν) (node : ν) (reason : String) : Failure :=
  .malformedDeclaration (d.typeDetail node) (Json.ofString reason)

/-! ## Tags -/

/-- The first name among those that a specifier can have. An imported or taken name comes
before the name bound here, and the exported name last. -/
def firstName (d : Dialect ν) (spec : ν) : Except Failure Json := do
  let imported ← d.importedName spec
  if !imported.isNull then return imported
  let taken ← d.takenName spec
  if !taken.isNull then return taken
  let bound ← d.localName spec
  if !bound.isNull then return bound
  d.exportedName spec

/-- **The tag of a specifier.** An export under the name `default` is a default export, whatever
it takes from the other module. -/
def tag (d : Dialect ν) (spec : ν) : Except Failure Json := do
  if d.reach spec = .defaultExport then return Link.defaultTag
  let exported ← d.exportedName spec
  if exported.isText "default" then return Link.defaultTag
  if d.reach spec = .wholeModule then return Link.namespaceTag
  let name ← d.firstName spec
  if name.isNull then throw (d.malformed spec "specifier has no resolvable name")
  return name

/-- **The tags of a declaration**, one for each specifier in order. -/
def tags (d : Dialect ν) (node : ν) : Except Failure (List Json) :=
  match d.specifiers node with
  | [] => .ok [Link.fileTag]
  | specifiers => specifiers.mapM d.tag

/-! ## Links of declarations -/

/-- The source of a declaration, which has to be a literal that is not empty. -/
def requiredSource (d : Dialect ν) (node : ν) : Except Failure Text := do
  match ← d.source? node with
  | some (c :: rest) => return c :: rest
  | _ => throw (d.malformed node "missing string source")

/-- The link of a declaration with the given tags. -/
def linkWith (d : Dialect ν) (node : ν) (tags : List Json) : Except Failure Link := do
  let source ← d.requiredSource node
  let assertion ← d.assertion? node
  return { specifiers := tags, source := .str source, assertion := Json.ofText? assertion }

/-- The link of an import declaration. -/
def importLink (d : Dialect ν) (node : ν) : Except Failure Link := do
  d.linkWith node (← d.tags node)

/-- The link of an export declaration with bindings. An export of this module's own bindings refers
to no other module. -/
def namedExportLink? (d : Dialect ν) (node : ν) : Except Failure (Option Link) :=
  if d.hasSource node then (d.importLink node).map some else .ok none

/-- The link of an export of all that another module exports. -/
def wholeExportLink? (d : Dialect ν) (node : ν) : Except Failure (Option Link) :=
  if d.hasSource node then (d.linkWith node [Link.namespaceTag]).map some else .ok none

/-- The source of a dynamic import with an argument. -/
def dynamicSource (d : Dialect ν) (node argument : ν) : Except Failure Json := do
  match ← d.literal? argument with
  | some [] => throw (d.malformed node "dynamic import of an empty string")
  | some source => return .str source
  | none => return Link.computedSource

/-- The link of a dynamic import; none for any other node. -/
def dynamicLink? (d : Dialect ν) (node : ν) : Except Failure (Option Link) := do
  if !d.isDynamicImport node then return none
  match ← d.importArgument? node with
  | none => throw (d.malformed node "dynamic import without an argument")
  | some argument =>
    let source ← d.dynamicSource node argument
    return some { specifiers := [Link.defaultTag], source }

/-- **The link of a node**, by its form. -/
def link? (d : Dialect ν) (node : ν) : Except Failure (Option Link) :=
  match d.form? node with
  | none => .ok none
  | some .importDeclaration => (d.importLink node).map some
  | some .namedExport => d.namedExportLink? node
  | some .wholeExport => d.wholeExportLink? node
  | some .importCall | some .importExpression => d.dynamicLink? node

end ModuleLinks.Dialect

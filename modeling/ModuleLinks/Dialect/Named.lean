/-
Dialects by name.

There are four dialects, named for the parsers that make their trees. Each name
knows the type of its nodes, so what is done with a name is done with a dialect
and nodes that belong together.
-/
import ModuleLinks.Dialect.Babel
import ModuleLinks.Dialect.Oxc
import ModuleLinks.Dialect.Swc
import ModuleLinks.Dialect.TreeSitter

set_option autoImplicit false

namespace ModuleLinks

/-- **The name of a dialect.** -/
inductive DialectName where
  | babel
  | swc
  | oxc
  | treeSitter
deriving DecidableEq

namespace DialectName

/-- All dialects, in the order of messages. -/
def all : List DialectName := [babel, swc, oxc, treeSitter]

/-- The spelling of a name. -/
def spelling : DialectName → String
  | babel => "babel"
  | swc => "swc"
  | oxc => "oxc"
  | treeSitter => "tree-sitter"

/-- The type of the nodes of a dialect. -/
abbrev Node : DialectName → Type
  | babel | swc | oxc => Json
  | treeSitter => ParseNode

/-- **The dialect of a name.** -/
def dialect : (name : DialectName) → Dialect name.Node
  | babel => ModuleLinks.babel.toDialect
  | swc => ModuleLinks.swc.toDialect
  | oxc => ModuleLinks.oxc.toDialect
  | treeSitter => ModuleLinks.treeSitter

/-- **The dialect that a value names.** -/
def ofJson (j : Json) : Except Failure DialectName :=
  match all.find? fun name => j.isText name.spelling with
  | some name => .ok name
  | none =>
    .error (.unsupportedDialect j
      (Json.ofString ("supported: " ++ ", ".intercalate (all.map spelling))))

end DialectName

end ModuleLinks

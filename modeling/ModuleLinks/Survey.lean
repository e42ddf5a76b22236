/-
Surveys: all links of a tree.

A survey visits the nodes of a tree in preorder, a node before its children and
the children from left to right, and collects the link that each node makes. A
malformed declaration is skipped with a warning, and what stands below it is
still visited. Any other failure ends the survey.

The survey keeps the list of nodes it has still to visit. Visiting a node puts
its children in front of that list, and since they weigh less than the node
does, the list gets lighter at every step.
-/
import ModuleLinks.Declaration
import ModuleLinks.Dialect.Named
import ModuleLinks.Logged

set_option autoImplicit false

namespace ModuleLinks

namespace Dialect

variable {ν : Type}

/-- **What a node contributes** on its own: its link, or a warning if it is malformed. -/
def contribution (d : Dialect ν) (node : ν) : Logged (List Link) :=
  match d.link? node with
  | .ok link => ⟨[], .ok link.toList⟩
  | .error (.malformedDeclaration nodeType reason) =>
    ⟨[⟨.warning, Text.ofString "Skipping declaration: "
      ++ (Failure.malformedDeclaration nodeType reason).message⟩], .ok []⟩
  | .error e => ⟨[], .error e⟩

/-- **The links of the nodes still to visit**, and of all nodes below them. -/
def collect (d : Dialect ν) : List ν → Logged (List Link)
  | [] => pure []
  | node :: rest => do
    let found ← d.contribution node
    let others ← d.collect (d.children node ++ rest)
    return found ++ others
termination_by pending => total d.weight pending
decreasing_by
  have := d.weight_children node
  simp only [total_append, total_cons]
  omega

/-- The record with which a survey begins. It names the file, if it was told one. -/
def opening (d : Dialect ν) (file : Json) : Text :=
  Text.ofString "Started traversal"
    ++ (if file.isTrivial then [] else Text.ofString " of " ++ file.shown)
    ++ Text.ofString " (" ++ Text.ofString d.name ++ Text.ofString ")"

/-- **The survey of a subject**, which is the tree of the file. -/
def survey (d : Dialect ν) (file : Json) (subject : Subject) : Logged (List Link) := do
  Logged.record .debug (d.opening file)
  let root ← d.root subject
  d.collect [root]

end Dialect

/-- The survey of a subject in the dialect of a name. -/
def DialectName.survey (name : DialectName) (file : Json) (subject : Subject) :
    Logged (List Link) :=
  name.dialect.survey file subject

end ModuleLinks

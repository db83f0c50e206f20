import MemoryFabric.Yaml.Node

/-!
# Documents without aliases

A document as a tree in which every alias is replaced by the node that it stands for.  A node can contain
itself, and aliases of aliases can make a short document huge, so there are two limits: how deep collections
may lie in one another, and how often an alias may be followed.
-/

namespace MemoryFabric.Yaml

set_option autoImplicit false

/-- A node with everything that it contains.  An entry of a mapping knows the step to its value. -/
inductive Tree where
  | scalar (position : DocumentPosition) (tag : Option Tag) (text : String) (isPlain : Bool)
  | sequence (position : DocumentPosition) (tag : Option Tag) (items : List Tree)
  | mapping (position : DocumentPosition) (tag : Option Tag)
      (entries : List (DocumentStep × Tree × Tree))
  deriving Repr

/-- How deep collections may lie in one another. -/
def deepest : Nat := 128

/-- How often an alias may be followed in a document of a length. -/
def mostAliases (length : Nat) : Nat := 100 * length

/-- Work that may follow a limited number of aliases more. -/
abbrev Following := StateT Nat Option

namespace Node

/-- The step from a mapping to the value of a key. -/
def step : Node → DocumentStep
  | .scalar _ _ text _ => .key text
  | _ => .unnamedKey

/-- The node itself, or the node that an alias stands for. -/
def follow (node? : Nat → Option Node) : Node → Following Node
  | .alias number => do
    match ← get with
    | 0 => failure
    | more + 1 => set more
    (node? number : Option Node)
  | node => pure node

/-- A node as a tree; `depth` more collections may lie in one another. -/
def tree (node? : Nat → Option Node) : Nat → Node → Following Tree
  | 0, node => do
    match ← node.follow node? with
    | .scalar position tag text isPlain => return .scalar position tag text isPlain
    | _ => failure
  | depth + 1, node => do
    match ← node.follow node? with
    | .scalar position tag text isPlain => return .scalar position tag text isPlain
    | .sequence position tag items =>
      return .sequence position tag (← items.mapM fun item => tree node? depth item)
    | .mapping position tag entries =>
      return .mapping position tag (← entries.mapM fun (key, value) => do
        let keyTree ← tree node? depth key
        let valueTree ← tree node? depth value
        return (key.step, keyTree, valueTree))
    | .alias _ => failure

end Node

/-- The tree of a document, if it keeps the limits. -/
def NodeDocument.tree? (document : NodeDocument) : Option Tree :=
  ((document.root.tree document.anchors.node? deepest).run
    (mostAliases document.root.length)).map Prod.fst

end MemoryFabric.Yaml

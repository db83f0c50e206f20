/-!
# Anchors of a YAML document

An anchor names a node, so that an alias can stand for it.  A name can be given anew, and an alias means the
node that the name belongs to where the alias is written.  A name is kept as a number: how many names there
were when it was given.  Of two nodes with one number the one that begins later counts, for an alias in
front of it as well, so aliases are followed only when the document is at its end.
-/

namespace MemoryFabric.Yaml

set_option autoImplicit false

/-- The anchors of a document whose nodes are of a type. -/
structure Anchors (α : Type) where
  /-- What each name means at the moment. -/
  numbers : List (String × Nat)
  /-- How many nodes with an anchor have begun. -/
  begun : Nat
  /-- The nodes that have a number, by their order, the latest first. -/
  owners : List (Nat × Nat)
  /-- The nodes that have ended, by their order. -/
  nodes : List (Nat × α)
  deriving Repr

namespace Anchors

/-- No anchors. -/
def none {α : Type} : Anchors α := ⟨[], 0, [], []⟩

/-- Begin a node with an anchor; gives its place in the order of such nodes. -/
def beginNode {α : Type} (anchors : Anchors α) (name : String) : Nat × Anchors α :=
  let number := anchors.numbers.length
  (anchors.begun, { anchors with
    numbers := (name, number) :: anchors.numbers.filter fun entry => entry.1 ≠ name
    begun := anchors.begun + 1
    owners := (number, anchors.begun) :: anchors.owners })

/-- End a node that has begun. -/
def endNode {α : Type} (anchors : Anchors α) (order : Nat) (node : α) : Anchors α :=
  { anchors with nodes := (order, node) :: anchors.nodes }

/-- What a name means at the moment. -/
def number? {α : Type} (anchors : Anchors α) (name : String) : Option Nat :=
  anchors.numbers.lookup name

/-- The node of a number. -/
def node? {α : Type} (anchors : Anchors α) (number : Nat) : Option α :=
  (anchors.owners.lookup number).bind fun order => anchors.nodes.lookup order

end Anchors

end MemoryFabric.Yaml

import MemoryFabric.Yaml.Form

/-!
# Values of a YAML document

What a document means as settings: its root is a mapping, the keys of its mappings are the texts of scalars,
whatever their form, and of two entries with one key the later one counts.  A node of the document's own kind
is a map with the name of the kind as its only key.  A document that is not sound has a value all the same,
but nothing can be said about where a mistake in it lies.
-/

namespace MemoryFabric.Yaml

set_option autoImplicit false

/-- The value of a node with a tag. -/
def taggedValue (tag : Option Tag) (value : Value) : Value :=
  match tag with
  | some (.own (some name)) => .map [(name, value)]
  | _ => value

/-- The key that a tree stands for. -/
def Tree.key : Tree → Except DocumentMistake String
  | .scalar _ _ text _ => .ok text
  | .sequence position _ _ => .error (.keyNotText [] false position)
  | .mapping position _ _ => .error (.keyNotText [] true position)

mutual

/-- The value of a tree. -/
def Tree.value : Tree → Except DocumentMistake Value
  | .scalar _ tag text isPlain =>
    match scalarValue? tag text isPlain with
    | some value => .ok (taggedValue tag value)
    | none => .error .malformed
  | .sequence _ tag items => (itemValues 0 items).map fun values => taggedValue tag (.list values)
  | .mapping _ tag entries =>
    (entryValues entries).map fun entries => taggedValue tag (Value.ofEntries entries)

/-- The values of the items of a sequence from an index on. -/
def itemValues (index : Nat) : List Tree → Except DocumentMistake (List Value)
  | [] => .ok []
  | item :: rest => do
    let value ← item.value.mapError (DocumentMistake.below (.item index))
    let values ← itemValues (index + 1) rest
    return value :: values

/-- The values of the entries of a mapping, by their keys. -/
def entryValues :
    List (DocumentStep × Tree × Tree) → Except DocumentMistake (List (String × Value))
  | [] => .ok []
  | (step, key, value) :: rest => do
    let name ← key.key
    let value ← value.value.mapError (DocumentMistake.below step)
    let values ← entryValues rest
    return (name, value) :: values

end

/-- The entries of the root of a document, which must be a mapping or left out; its tag does not count. -/
def Tree.rootEntries : Tree → Except DocumentMistake (List (String × Value))
  | .mapping _ _ entries => (entryValues entries).map fun entries => (SortedMap.ofList entries).toList
  | .scalar _ _ "" true => .ok []
  | .scalar position tag text isPlain =>
    match scalarValue? tag text isPlain with
    | some value => .error (.notMap value position)
    | none => .error .malformed
  | .sequence position _ _ => .error (.notMap (.list []) position)

/-- What a document stands for. -/
structure Document where
  entries : Except DocumentMistake (List (String × Value))
  isSound : Bool

/-- Read a document.  A document without a node is an empty map. -/
def read (text : String) : Document :=
  match ((tokens? text).bind NodeDocument.ofTokens?).bind NodeDocument.tree? with
  | some tree => ⟨tree.rootEntries, tree.isSound⟩
  | none => ⟨.error .malformed, true⟩

end MemoryFabric.Yaml

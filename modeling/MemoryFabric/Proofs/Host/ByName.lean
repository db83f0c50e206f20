import MemoryFabric.Proofs.Host.Names

/-!
# Graphs by name

A handle is the number of a component in the order of creation, so that two builds that create the same
components in different orders have different graphs.  A `Description` is a component without numbers: it
has the full name of the parent in the place of the handle of the parent, and the full names of what is in
the slots.  Two graphs are the same by name when every name has the same description in both
(`ComponentGraph.SameByName`).

Main statement: **`ComponentGraph.sameByName_of_perm`**, by which it is enough that the components have the
same descriptions in any order.  A list of components that is described in the same way wherever it begins
is said to be a block (`IsBlock`), and blocks can be put one behind the other.
-/

namespace MemoryFabric

set_option autoImplicit false

/-- A component with names in the place of handles; a handle without a component has none. -/
structure Description where
  name : String
  kind : String
  /-- The name of the parent, and the slot. -/
  parent : Option (Option String × String)
  parameters : Parameters
  /-- The slots in their order, with the names of what is in them. -/
  slots : List (String × Option String)
  deriving DecidableEq

/-- The component with names in the place of handles. -/
def Component.describe (nameOf : ComponentHandle → Option String) (component : Component) : Description where
  name := component.name
  kind := component.kind
  parent := component.parent.map fun place => (nameOf place.1, place.2)
  parameters := component.parameters
  slots := component.slots.toList.map fun entry => (entry.1, nameOf entry.2)

namespace ComponentGraph

variable {graph first second : ComponentGraph}

/-- The descriptions of the components, in the order of the components. -/
def descriptions (graph : ComponentGraph) : List Description :=
  graph.components.toList.map (Component.describe graph.name?)

/-- The description of the component that a name finds. -/
def description? (graph : ComponentGraph) (name : String) : Option Description := do
  let component ← graph.component? (← graph.find? name)
  return component.describe graph.name?

/-- The graphs differ in the numbers of their components at most. -/
structure SameByName (first second : ComponentGraph) : Prop where
  /-- The full names are the same, each as often. -/
  names : first.names.Perm second.names
  /-- Every name has the same kind, parameters, parent and contents of its slots. -/
  described : ∀ name, first.description? name = second.description? name
  links : first.links = second.links
  statistics : first.statistics = second.statistics
  finalized : first.isFinalized = second.isFinalized

/-! ## Descriptions and look-ups -/

theorem names_descriptions : graph.descriptions.map Description.name = graph.names := by
  rw [descriptions, List.map_map, names]
  rfl

/-- Among distinct names, a name finds the description with this name. -/
theorem NamesIndexed.description?_eq_some_iff (indexed : graph.NamesIndexed) (distinct : graph.names.Nodup)
    {name : String} {description : Description} :
    graph.description? name = some description ↔
      description ∈ graph.descriptions ∧ description.name = name := by
  simp only [description?, Option.bind_eq_bind, Option.bind_eq_some_iff, Option.pure_def, Option.some.injEq]
  constructor
  · rintro ⟨handle, found, component, known, rfl⟩
    obtain ⟨_, same, named⟩ := names_getElem?_eq_some_iff.1 (indexed.names_of_find? found)
    cases known.symm.trans same
    exact ⟨List.mem_map_of_mem (Array.mem_toList_iff.2 (Array.mem_of_getElem? known)), named⟩
  · rintro ⟨listed, rfl⟩
    obtain ⟨component, member, rfl⟩ := List.mem_map.1 listed
    obtain ⟨index, known⟩ := Array.mem_iff_getElem?.1 (Array.mem_toList_iff.1 member)
    exact ⟨⟨index⟩, indexed.find?_of_names distinct (names_getElem?_eq_some_iff.2 ⟨component, known, rfl⟩),
      component, known, rfl⟩

/-- **Graphs whose components have the same descriptions, in any order, are the same by name.** -/
theorem sameByName_of_perm (first_indexed : first.NamesIndexed) (second_indexed : second.NamesIndexed)
    (distinct : first.names.Nodup) (perm : first.descriptions.Perm second.descriptions)
    (links : first.links = second.links) (statistics : first.statistics = second.statistics)
    (finalized : first.isFinalized = second.isFinalized) : first.SameByName second := by
  have names : first.names.Perm second.names := by
    rw [← names_descriptions, ← names_descriptions]
    exact perm.map Description.name
  refine ⟨names, fun name => Option.ext fun description => ?_, links, statistics, finalized⟩
  rw [first_indexed.description?_eq_some_iff distinct,
    second_indexed.description?_eq_some_iff (names.nodup_iff.1 distinct), perm.mem_iff]

/-! ## Appended components -/

theorem NamesIndexed.pushAll (indexed : graph.NamesIndexed) (components : List Component) :
    (graph.pushAll components).NamesIndexed := by
  induction components generalizing graph with
  | nil => exact indexed
  | cons component rest ih => exact ih (indexed.push component)

theorem namesIndexed_empty : empty.NamesIndexed := rfl

theorem names_pushAll {components : List Component} :
    (graph.pushAll components).names = graph.names ++ components.map Component.name := by
  rw [pushAll_eq, names, names, Array.toList_append, List.map_append]

/-- The descriptions of components in a graph of their own. -/
theorem descriptions_pushAll_empty {components : List Component} :
    (empty.pushAll components).descriptions = components.map
      (Component.describe fun handle => (components[handle.index]?).map Component.name) := by
  have grown : (empty.pushAll components).components.toList = components := by
    rw [pushAll_eq]
    simp [empty]
  have named : (empty.pushAll components).name? = fun handle =>
      (components[handle.index]?).map Component.name := by
    funext handle
    rw [name?, component?_pushAll_empty]
  rw [descriptions, grown, named]

end ComponentGraph

/-! ## Blocks -/

/-- The components have these names, the first of them at the handle with the number `base`. -/
def AreNamed (nameOf : ComponentHandle → Option String) (base : Nat) (components : List Component) : Prop :=
  ∀ position component, components[position]? = some component →
    nameOf ⟨base + position⟩ = some component.name

/-- Wherever the components begin, they have these descriptions. -/
def IsBlock (components : Nat → List Component) (descriptions : List Description) : Prop :=
  ∀ base nameOf, AreNamed nameOf base (components base) →
    (components base).map (Component.describe nameOf) = descriptions

namespace AreNamed

variable {nameOf : ComponentHandle → Option String} {base : Nat} {first second : List Component}

theorem left (named : AreNamed nameOf base (first ++ second)) : AreNamed nameOf base first :=
  fun position component found => named position component
    ((List.getElem?_append_left (List.getElem?_eq_some_iff.1 found).1).trans found)

theorem right (named : AreNamed nameOf base (first ++ second)) :
    AreNamed nameOf (base + first.length) second := by
  intro position component found
  rw [Nat.add_assoc]
  refine named _ component ?_
  rw [List.getElem?_append_right (Nat.le_add_right _ _), Nat.add_sub_cancel_left]
  exact found

end AreNamed

namespace IsBlock

variable {first second : Nat → List Component} {firstDescriptions secondDescriptions : List Description}

theorem nil : IsBlock (fun _ => []) [] := fun _ _ _ => rfl

/-- **A block behind a block of fixed length makes a block.** -/
theorem append (first_block : IsBlock first firstDescriptions)
    (second_block : IsBlock second secondDescriptions) {length : Nat}
    (fixed : ∀ base, (first base).length = length) :
    IsBlock (fun base => first base ++ second (base + length)) (firstDescriptions ++ secondDescriptions) := by
  intro base nameOf named
  have behind := named.right
  rw [fixed] at behind
  rw [List.map_append, first_block base nameOf named.left, second_block _ nameOf behind]

/-- Blocks of one length that follow one another make a block. -/
theorem flatMap_range {block : Nat → Nat → List Component} {descriptions : Nat → List Description}
    (blocks : ∀ index, IsBlock (block index) (descriptions index)) {length : Nat}
    (fixed : ∀ index base, (block index base).length = length) (count : Nat) :
    IsBlock (fun base => (List.range count).flatMap fun index => block index (base + length * index))
      ((List.range count).flatMap descriptions) := by
  induction count with
  | zero => exact nil
  | succ count ih =>
      have earlier : ∀ base, ((List.range count).flatMap fun index =>
          block index (base + length * index)).length = length * count := by
        intro base
        rw [List.length_flatMap]
        simp [fixed, Nat.mul_comm]
      have grown := ih.append (blocks count) earlier
      simpa only [List.range_succ, List.flatMap_append, List.flatMap_singleton] using grown

/-- The descriptions of a block are those of a graph that consists of the block. -/
theorem descriptions_pushAll (block : IsBlock first firstDescriptions) :
    (ComponentGraph.empty.pushAll (first 0)).descriptions = firstDescriptions := by
  rw [ComponentGraph.descriptions_pushAll_empty]
  refine block 0 _ fun position component found => ?_
  rw [Nat.zero_add, found]
  rfl

theorem own (block : IsBlock first firstDescriptions) :
    IsBlock first (ComponentGraph.empty.pushAll (first 0)).descriptions := by
  rw [block.descriptions_pushAll]
  exact block

end IsBlock

end MemoryFabric

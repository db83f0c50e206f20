import MemoryFabric.Proofs.Fabric.FreeNames
import MemoryFabric.Proofs.Fabric.Yields

/-!
# The components of memory nodes

What the creation of a memory node appends to a graph, with the exact components, told from the number of
the next component.  Memory nodes are created one behind the other, each at the place of its number.
-/

namespace MemoryFabric

set_option autoImplicit false

namespace MemoryNode

/-- The components of a memory node, the first of which gets the number `base`. -/
def components (settings : Settings) (descriptor : NodeDescriptor) (base : Nat) : List Component :=
  let node := descriptor.node
  [(((Component.bare (Part.controller node).name Kind.memoryController none).extend
      (Table.memoryController settings descriptor)).fill "backend" ⟨base + 1⟩).fill "cpulink"
        ⟨base + 3⟩,
    ((Component.bare (Part.accelerator node).name Kind.acceleratorBackend
      (some (⟨base⟩, "backend"))).extend (Table.acceleratorBackend settings node)).fill "backend"
        ⟨base + 2⟩,
    (Component.bare (Part.storage node).name settings.memory.model.kind
      (some (⟨base + 1⟩, "backend"))).extend (Table.storageBackend settings),
    (Component.bare (Part.memoryInterface node).name Kind.networkInterface
      (some (⟨base⟩, "cpulink"))).extend (Table.networkInterface settings .memory)]

/-- The node whose controller has the number `base`. -/
def located (entity : EntityHandle) (descriptor : NodeDescriptor) (base : Nat) : MemoryNode :=
  ⟨entity, descriptor, ⟨base⟩, ⟨base + 1⟩, ⟨base + 2⟩, ⟨base + 3⟩,
    ⟨(Part.memoryInterface descriptor.node).name, PortName.single⟩⟩

section Creation

variable {settings : Settings} {descriptor : NodeDescriptor} {graph : ComponentGraph}

theorem names_components {base : Nat} :
    (components settings descriptor base).map Component.name =
      (Part.ofMemoryNode descriptor.node).map Part.name := rfl

theorem modelKind_ne_empty (model : MemoryModel) : model.kind ≠ "" := by
  cases model <;> simp [MemoryModel.kind]

/-- **A memory node can be created in every open graph in which its name is free.** -/
theorem yields_create (parent : EntityHandle) (opened : graph.isFinalized = false)
    (free : graph.componentByName.contains (Part.controller descriptor.node).name = false) :
    (create parent settings descriptor).Yields 5 graph fun node after =>
      (∃ entity, node = located entity descriptor graph.components.size) ∧
        after = graph.pushAll (components settings descriptor graph.components.size) := by
  refine (Build.yields_createEntity _ _ _).bind (by decide) ?_
  rintro entity graph rfl
  refine Build.Yields.orRelease ?_ _
  refine (@Build.yields_createWith graph [] _ _ _ opened (by decide)
    (Part.name_ne_empty (.controller descriptor.node)) List.not_mem_nil free).bind (by decide) ?_
  rintro _ _ ⟨rfl, rfl⟩
  refine (Build.yields_attachWith 0 _ opened (by decide) (by decide) rfl rfl).bind (by decide) ?_
  rintro _ _ ⟨rfl, rfl⟩
  refine (Build.yields_attachWith 1 _ opened (modelKind_ne_empty _) (by decide) rfl rfl).bind
    (by decide) ?_
  rintro _ _ ⟨rfl, rfl⟩
  refine (Build.yields_attachWith 0 _ opened (by decide) (by decide) rfl rfl).bind (by decide) ?_
  rintro _ _ ⟨rfl, rfl⟩
  refine (Build.yields_portOf _ ComponentGraph.component?_pushAll).bind (Nat.zero_le _) ?_
  rintro _ _ ⟨rfl, rfl⟩
  refine (Build.yields_log _ _ _ _).bind (Nat.zero_le _) ?_
  rintro _ _ rfl
  refine (Build.yields_log _ _ _ _).bind (Nat.zero_le _) ?_
  rintro _ _ rfl
  refine (Build.Yields.pure _ _ _).weaken (Nat.le_refl _) ?_
  rintro _ _ ⟨rfl, rfl⟩
  exact ⟨⟨entity, rfl⟩, rfl⟩

/-- The node is the one of its descriptor in a fabric where memory nodes begin at `base`. -/
def IsLocated (base : Nat) (descriptor : NodeDescriptor) (node : MemoryNode) : Prop :=
  ∃ entity, node = located entity descriptor (base + 4 * descriptor.node)

/-- The components of memory nodes in a fabric where they begin at `base`. -/
def allComponents (settings : Settings) (base : Nat) (descriptors : List NodeDescriptor) :
    List Component :=
  descriptors.flatMap fun descriptor => components settings descriptor (base + 4 * descriptor.node)

theorem names_allComponents {base : Nat} {descriptors : List NodeDescriptor} :
    (allComponents settings base descriptors).map Component.name =
      ((descriptors.map NodeDescriptor.node).flatMap Part.ofMemoryNode).map Part.name := by
  simp only [allComponents, List.map_flatMap, names_components, List.flatMap_map]

/-- **Memory nodes are created one behind the other.** -/
theorem yields_createAll (settings : Settings) (parent : EntityHandle) (created : List MemoryNode)
    {base start : Nat} {descriptors : List NodeDescriptor} (opened : graph.isFinalized = false)
    (size : graph.components.size = base + 4 * start)
    (numbered : descriptors.map NodeDescriptor.node = List.range' start descriptors.length)
    (lacks : graph.Lacks fun part => ∃ node, start ≤ node ∧ part ∈ Part.ofMemoryNode node) :
    (createAll parent settings created descriptors).Yields (descriptors.length * 5) graph
      fun nodes after =>
        (∃ more, nodes = created ++ more ∧ List.Forall₂ (IsLocated base) descriptors more) ∧
          after = graph.pushAll (allComponents settings base descriptors) := by
  induction descriptors generalizing graph start created with
  | nil =>
      refine (Build.Yields.pure _ _ _).weaken (Nat.le_refl _) ?_
      rintro _ _ ⟨rfl, rfl⟩
      exact ⟨⟨[], (List.append_nil _).symm, .nil⟩, rfl⟩
  | cons descriptor rest ih =>
      rw [List.map_cons, List.length_cons, List.range'_succ] at numbered
      obtain ⟨placed, numbered⟩ := List.cons.inj numbered
      have free := lacks (.controller descriptor.node)
        ⟨start, Nat.le_refl _, by simp [Part.ofMemoryNode, placed]⟩
      refine ((yields_create parent opened free).orRelease _).bind
        (by rw [List.length_cons]; omega) ?_
      rintro node _ ⟨⟨own, rfl⟩, rfl⟩
      have next : (descriptor :: rest).length * 5 - 5 = rest.length * 5 := by
        rw [List.length_cons]
        omega
      have later : (graph.pushAll (components settings descriptor graph.components.size)).Lacks
          fun part => ∃ node, start + 1 ≤ node ∧ part ∈ Part.ofMemoryNode node :=
        lacks.next Part.eq_of_mem_ofMemoryNode (by rw [names_components, placed])
      rw [next]
      refine (ih (created ++ [_]) (by simpa using opened) ?_ numbered later).weaken (Nat.le_refl _) ?_
      · rw [ComponentGraph.pushAll_size, size]
        simp only [components, List.length_cons, List.length_nil]
        omega
      · rintro nodes _ ⟨⟨more, rfl, located⟩, rfl⟩
        rw [size, ← placed, ← ComponentGraph.pushAll_append]
        exact ⟨⟨_ :: more, List.append_assoc _ _ _, .cons ⟨own, rfl⟩ located⟩, rfl⟩

end Creation

end MemoryNode

end MemoryFabric

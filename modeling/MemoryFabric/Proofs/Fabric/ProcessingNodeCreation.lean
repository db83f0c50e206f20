import MemoryFabric.Proofs.Fabric.FreeNames
import MemoryFabric.Proofs.Fabric.Yields

/-!
# The components of a processing node

What the creation of a processing node appends to a graph, with the exact components: their kinds, their
parameters, and what is in their slots.  The list is told from the number of the next component, so a node
can be created behind anything else.
-/

namespace MemoryFabric

set_option autoImplicit false

/-- The working set of a node whose window begins inside the memory. -/
def WorkingSet.placed (index : Nat) (total : UInt64) : WorkingSet :=
  ⟨UInt64.ofNat (index * workingSetStride), total - UInt64.ofNat (index * workingSetStride)⟩

theorem WorkingSet.ofNode_of_lt {index : Nat} {total : UInt64}
    (inside : index * workingSetStride < total.toNat) :
    WorkingSet.ofNode index total = .ok (WorkingSet.placed index total) := by
  rw [WorkingSet.ofNode, if_pos inside]
  rfl

namespace ProcessingNode

/-- The parameters of a core that runs a program. -/
def programParameters (settings : Settings) (index : Nat) : Parameters :=
  let placement := WorkingSet.placed index settings.memory.totalBytes
  (Table.programCore settings).insertAll
    [("memSize", .unsigned placement.memorySize),
      ("heapBuffer", .unsigned placement.heapBuffer),
      ("args", .text (nodeArguments settings.compute.arguments index))]

/-- The components of a core, the first of which gets the number `base`. -/
def coreComponents (settings : Settings) (index base : Nat) : Core → List Component
  | .program =>
    [((Component.bare (Part.core index).name Core.program.kind none).extend
        (programParameters settings index)).fill "memory" ⟨base + 1⟩,
      ((Component.bare (Part.coreController index).name Kind.coreController
          (some (⟨base⟩, "memory"))).extend (Table.coreController settings)).fill "memIface" ⟨base + 2⟩,
      (Component.bare (Part.coreInterface index).name Kind.coreInterface
        (some (⟨base + 1⟩, "memIface"))).extend Table.coreInterface]
  | .generator workload =>
    [((Component.bare (Part.core index).name (Core.generator workload).kind none).extend
        ((Table.generator settings).insert "args"
          (.text (nodeArguments settings.compute.arguments index)))).fill "generator" ⟨base + 1⟩,
      (Component.bare (Part.generator index).name (Kind.generator workload)
        (some (⟨base⟩, "generator"))).extend (Table.generator settings)]

/-- The components of a node, the first of which gets the number `base`. -/
def components (settings : Settings) (core : Core) (index base : Nat) : List Component :=
  coreComponents settings index base core ++
    [(Component.bare (Part.firstCache index).name Kind.cache none).extend
      (Table.firstCache settings index)]

/-- The distance from a core to its client. -/
def clientOffset : Core → Nat
  | .program => 2
  | .generator _ => 0

theorem names_components {settings : Settings} {core : Core} {index base : Nat} :
    (components settings core index base).map Component.name =
      (Part.ofNode core index).map Part.name := by
  cases core <;> rfl

section Creation

variable {settings : Settings} {index : Nat} {graph : ComponentGraph}

theorem kind_ne_empty (core : Core) : core.kind ≠ "" := by
  cases core <;> simp [Core.kind]

theorem generatorKind_ne_empty (workload : String) : Kind.generator workload ≠ "" := by
  intro empty
  simpa [Kind.generator] using congrArg String.toList empty

theorem yields_createProgram (entity : EntityHandle) (opened : graph.isFinalized = false)
    (inside : index * workingSetStride < settings.memory.totalBytes.toNat) :
    (createProgram settings entity ⟨graph.components.size⟩ index).Yields 2
      (graph.pushAll [Component.bare (Part.core index).name Core.program.kind none])
      fun client after =>
        client = ⟨graph.components.size + 2⟩ ∧
          after = graph.pushAll (coreComponents settings index graph.components.size .program) := by
  have placed : Attempt.reporting (WorkingSet.ofNode index settings.memory.totalBytes) =
      .ok (WorkingSet.placed index settings.memory.totalBytes) := by
    rw [WorkingSet.ofNode_of_lt inside]
    rfl
  refine (Build.yields_ofBuilt placed _).bind (Nat.zero_le _) ?_
  rintro _ _ ⟨rfl, rfl⟩
  refine (Build.yields_setParameters (ComponentGraph.setParameters_pushAll 0 opened rfl)).bind
    (Nat.zero_le _) ?_
  rintro _ _ rfl
  refine (Build.yields_log _ _ _ _).bind (Nat.zero_le _) ?_
  rintro _ _ rfl
  refine (Build.yields_attachWith 0 _ opened (by decide) (by decide) rfl rfl).bind
    (by decide) ?_
  rintro _ _ ⟨rfl, rfl⟩
  refine (Build.yields_attachWith 1 _ opened (by decide) (by decide) rfl rfl).weaken
    (by decide) ?_
  rintro _ _ ⟨rfl, rfl⟩
  exact ⟨rfl, rfl⟩

theorem yields_createGenerator (entity : EntityHandle) (workload : String)
    (opened : graph.isFinalized = false) :
    (createGenerator settings entity ⟨graph.components.size⟩ index workload).Yields 1
      (graph.pushAll [Component.bare (Part.core index).name (Core.generator workload).kind none])
      fun client after =>
        client = ⟨graph.components.size⟩ ∧
          after = graph.pushAll
            (coreComponents settings index graph.components.size (.generator workload)) := by
  refine (Build.yields_setParameters (ComponentGraph.setParameters_pushAll 0 opened rfl)).bind
    (Nat.zero_le _) ?_
  rintro _ _ rfl
  refine (Build.yields_log _ _ _ _).bind (Nat.zero_le _) ?_
  rintro _ _ rfl
  refine (Build.yields_attachWith 0 _ opened (generatorKind_ne_empty workload) (by decide) rfl
    rfl).bind (by decide) ?_
  rintro _ _ ⟨rfl, rfl⟩
  refine (Build.Yields.pure _ _ _).weaken (Nat.le_refl _) ?_
  rintro _ _ ⟨rfl, rfl⟩
  exact ⟨rfl, rfl⟩

theorem length_coreComponents {core : Core} {base : Nat} :
    (coreComponents settings index base core).length = Part.width core - 1 := by
  cases core <;> rfl

theorem length_components {core : Core} {base : Nat} :
    (components settings core index base).length = Part.width core := by
  cases core <;> rfl

theorem yields_createClient (entity : EntityHandle) (core : Core)
    (opened : graph.isFinalized = false)
    (inside : core = .program → index * workingSetStride < settings.memory.totalBytes.toNat) :
    (createClient settings entity ⟨graph.components.size⟩ index core).Yields (Part.width core - 2)
      (graph.pushAll [Component.bare (Part.core index).name core.kind none])
      fun client after =>
        client = ⟨graph.components.size + clientOffset core⟩ ∧
          after = graph.pushAll (coreComponents settings index graph.components.size core) := by
  cases core with
  | program => exact yields_createProgram entity opened (inside rfl)
  | generator workload => exact yields_createGenerator entity workload opened

/-- The node whose core has the number `base`. -/
def located (entity : EntityHandle) (core : Core) (index base : Nat) : ProcessingNode :=
  ⟨entity, index, core, ⟨base⟩, ⟨base + clientOffset core⟩, ⟨base + (Part.width core - 1)⟩⟩

/-- **A processing node can be created in every open graph in which its names are free.** -/
theorem yields_create (parent : EntityHandle) (core : Core) (opened : graph.isFinalized = false)
    (core_free : graph.componentByName.contains (Part.core index).name = false)
    (cache_free : graph.componentByName.contains (Part.firstCache index).name = false)
    (inside : core = .program → index * workingSetStride < settings.memory.totalBytes.toNat) :
    (create parent settings core index).Yields (Part.width core + 1) graph fun node after =>
      (∃ entity, node = located entity core index graph.components.size) ∧
        after = graph.pushAll (components settings core index graph.components.size) := by
  have cache_absent : (Part.firstCache index).name ∉
      (coreComponents settings index graph.components.size core).map Component.name := by
    cases core with
    | program =>
        exact @Part.name_not_mem (.firstCache index)
          [.core index, .coreController index, .coreInterface index] (by simp)
    | generator workload =>
        exact @Part.name_not_mem (.firstCache index) [.core index, .generator index] (by simp)
  have wide : 3 ≤ Part.width core := by cases core <;> simp [Part.width]
  refine (Build.yields_createEntity _ _ _).bind (by omega) ?_
  rintro entity _ rfl
  refine Build.Yields.orRelease ?_ _
  refine (Build.yields_createComponent (@ComponentGraph.createComponent_pushAll _ [] _ _ opened
    (kind_ne_empty core) (Part.name_ne_empty (.core index)) List.not_mem_nil core_free)).bind
      (by omega) ?_
  rintro _ _ ⟨rfl, rfl⟩
  refine (yields_createClient entity core opened inside).bind (by omega) ?_
  rintro _ _ ⟨rfl, rfl⟩
  refine (Build.yields_createWith _ opened (by decide) (Part.name_ne_empty (.firstCache index))
    cache_absent cache_free).bind (by omega) ?_
  rintro _ _ ⟨rfl, rfl⟩
  refine (Build.Yields.pure _ _ _).weaken (Nat.le_refl _) ?_
  rintro _ _ ⟨rfl, rfl⟩
  rw [length_coreComponents]
  exact ⟨⟨entity, rfl⟩, rfl⟩

/-- The node is the one of its number in a fabric. -/
def IsLocated (core : Core) (index : Nat) (node : ProcessingNode) : Prop :=
  ∃ entity, node = located entity core index (Part.width core * index)

end Creation

end ProcessingNode

end MemoryFabric

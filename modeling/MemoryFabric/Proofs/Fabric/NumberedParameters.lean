import MemoryFabric.Proofs.Fabric.ComponentTree
import MemoryFabric.Proofs.Fabric.Outcome
import MemoryFabric.Proofs.Fabric.RecordedAddresses
import MemoryFabric.Proofs.Fabric.ReportedBuild

/-!
# Numbered components and their parameters

The parameters of a component are put together from several tables, of which a later one replaces what an
earlier one says.  Whatever belongs to a numbered component has the number of that component in the end, for
every number.

Main statement: **`buildFresh_components_exactly`**.
-/

namespace MemoryFabric

set_option autoImplicit false

namespace ComponentGraph

/-- A parameter of the component of a name. -/
def parameter? (graph : ComponentGraph) (name key : String) : Option Parameter :=
  (graph.parameters? name).bind fun parameters => parameters.get? key

end ComponentGraph

/-- The parameters of numbered components have the numbers of their components. -/
structure ComponentGraph.CarriesNumbers (settings : Settings) (descriptors : List NodeDescriptor)
    (graph : ComponentGraph) : Prop where
  /-- The arguments of a core are those of its number. -/
  arguments : ∀ index < settings.compute.processingNodes.toNat,
    graph.parameter? ("cpu" ++ toString index) "args" =
      some (.text (nodeArguments settings.compute.arguments index))
  /-- A core that runs a program has a window of its own at the top of the memory. -/
  window : Core.ofSettings settings = .program →
    ∀ index < settings.compute.processingNodes.toNat,
      index * 0x10000 < settings.memory.totalBytes.toNat ∧ ∃ heapBuffer memorySize : UInt64,
        graph.parameter? ("cpu" ++ toString index) "heapBuffer" = some (.unsigned heapBuffer) ∧
          graph.parameter? ("cpu" ++ toString index) "memSize" = some (.unsigned memorySize) ∧
            heapBuffer.toNat = index * 0x10000 ∧
              memorySize.toNat = settings.memory.totalBytes.toNat - index * 0x10000
  /-- The private cache of a core. -/
  firstCache : ∀ index < settings.compute.processingNodes.toNat, ∃ number : UInt64,
    graph.parameter? ("l1_" ++ toString index) "node" = some (.unsigned number) ∧
      number.toNat = index
  /-- The controller and the processing backend of a memory node. -/
  memoryNode : ∀ node < settings.memory.nodes.toNat, ∃ number : UInt64,
    graph.parameter? ("memory" ++ toString node) "node_id" = some (.unsigned number) ∧
      graph.parameter? ("memory" ++ toString node ++ ".backend") "node_id" =
        some (.unsigned number) ∧ number.toNat = node
  /-- The addresses of a memory node are those of its descriptor. -/
  addresses : ∀ node < settings.memory.nodes.toNat, ∃ descriptor,
    descriptors[node]? = some descriptor ∧ descriptor.node = node ∧
      graph.parameter? ("memory" ++ toString node) "addr_range_start" =
        some (.text (toString descriptor.range.first.toNat)) ∧
      graph.parameter? ("memory" ++ toString node) "addr_range_end" =
        some (.text (toString descriptor.range.last.toNat))
  /-- The router has a port for each memory node and one for the shared cache. -/
  routerPorts : graph.parameter? "local_network" "num_ports" =
    some (.text (toString (settings.memory.nodes.toNat + 1)))
  /-- The interface of the processing nodes belongs to the first routing group. -/
  cacheInterface : graph.parameter? "l2cache.memlink" "group" = some (.unsigned 1)
  /-- The interfaces of the memory nodes belong to the second routing group. -/
  memoryInterface : ∀ node < settings.memory.nodes.toNat,
    graph.parameter? ("memory" ++ toString node ++ ".cpulink") "group" = some (.unsigned 2) ∧
      graph.parameter? ("memory" ++ toString node ++ ".cpulink") "sources" =
        some (.list [.unsigned 1, .unsigned 2]) ∧
      graph.parameter? ("memory" ++ toString node ++ ".cpulink") "destinations" =
        some (.list [.unsigned 2])

/-! ## Names in full -/

section Names

variable (number : Nat)

theorem name_core : (Part.core number).name = "cpu" ++ toString number := by
  simp [Part.name, ProcessingNode.nodeName]

theorem name_firstCache : (Part.firstCache number).name = "l1_" ++ toString number := by
  simp [Part.name, ProcessingNode.cacheNameOf]

theorem name_controller : (Part.controller number).name = "memory" ++ toString number := by
  simp [Part.name, MemoryNode.nodeName]

theorem name_accelerator :
    (Part.accelerator number).name = "memory" ++ toString number ++ ".backend" := by
  simp [Part.name, MemoryNode.nodeName, String.append_assoc]

theorem name_memoryInterface :
    (Part.memoryInterface number).name = "memory" ++ toString number ++ ".cpulink" := by
  simp [Part.name, MemoryNode.nodeName, String.append_assoc]

end Names

/-! ## Created tables -/

/-- Among the components there is one of a name with the parameters of a table. -/
def Creates (components : List Component) (name : String) (table : Parameters) : Prop :=
  ∃ component ∈ components, component.name = name ∧
    component.parameters = (∅ : Parameters).extend table

section Created

variable {component : Component}

theorem parameters_bare {name kind : String} {parent : Option (ComponentHandle × String)} :
    (Component.bare name kind parent).parameters = ∅ := rfl

theorem parameters_extend {table : Parameters} :
    (component.extend table).parameters = component.parameters.extend table := rfl

theorem parameters_fill {slot : String} {handle : ComponentHandle} :
    (component.fill slot handle).parameters = component.parameters := rfl

end Created

section Tables

variable {settings : Settings} {index base : Nat}

theorem creates_program :
    Creates (ProcessingNode.components settings .program index base) ("cpu" ++ toString index)
      (ProcessingNode.programParameters settings index) := by
  refine ⟨_, List.mem_cons_self, name_core index, ?_⟩
  simp only [parameters_fill, parameters_extend, parameters_bare]

theorem creates_generator {workload : String} :
    Creates (ProcessingNode.components settings (.generator workload) index base)
      ("cpu" ++ toString index) ((Table.generator settings).insert "args"
        (.text (nodeArguments settings.compute.arguments index))) := by
  refine ⟨_, List.mem_cons_self, name_core index, ?_⟩
  simp only [parameters_fill, parameters_extend, parameters_bare]

theorem creates_firstCache {driver : Core} :
    Creates (ProcessingNode.components settings driver index base) ("l1_" ++ toString index)
      (Table.firstCache settings index) := by
  refine ⟨_, List.mem_append_right _ List.mem_cons_self, name_firstCache index, ?_⟩
  simp only [parameters_extend, parameters_bare]

theorem creates_cacheInterface :
    Creates (Cluster.sharedComponents settings index base) "l2cache.memlink"
      (Table.networkInterface settings .compute) := by
  refine ⟨_, List.mem_cons_of_mem _ (List.mem_cons_of_mem _ (List.mem_cons_of_mem _ List.mem_cons_self)),
    rfl, ?_⟩
  simp only [parameters_extend, parameters_bare]

theorem creates_router {ports : Nat} :
    Creates (Populated.routerComponents settings ports base) "local_network"
      (Table.router settings ports) := by
  refine ⟨_, List.mem_cons_self, rfl, ?_⟩
  simp only [parameters_fill, parameters_extend, parameters_bare]

variable {descriptor : NodeDescriptor}

theorem creates_controller :
    Creates (MemoryNode.components settings descriptor base) ("memory" ++ toString descriptor.node)
      (Table.memoryController settings descriptor) := by
  refine ⟨_, List.mem_cons_self, name_controller descriptor.node, ?_⟩
  simp only [parameters_fill, parameters_extend, parameters_bare]

theorem creates_accelerator :
    Creates (MemoryNode.components settings descriptor base)
      ("memory" ++ toString descriptor.node ++ ".backend")
      (Table.acceleratorBackend settings descriptor.node) := by
  refine ⟨_, List.mem_cons_of_mem _ List.mem_cons_self, name_accelerator descriptor.node, ?_⟩
  simp only [parameters_fill, parameters_extend, parameters_bare]

theorem creates_memoryInterface :
    Creates (MemoryNode.components settings descriptor base)
      ("memory" ++ toString descriptor.node ++ ".cpulink")
      (Table.networkInterface settings .memory) := by
  refine ⟨_, List.mem_cons_of_mem _ (List.mem_cons_of_mem _ (List.mem_cons_of_mem _ List.mem_cons_self)),
    name_memoryInterface descriptor.node, ?_⟩
  simp only [parameters_extend, parameters_bare]

end Tables

/-! ## Values in the tables -/

namespace Table

variable {settings : Settings} {descriptor : NodeDescriptor}

/-- Switching the debug output off leaves all other parameters alone. -/
theorem get?_extend_quiet {table : Parameters} {name : String} {level : UInt64}
    (other : name ∉ ["debug", "debug_level", "debug_addr"]) :
    (table.extend (quiet level)).get? name = table.get? name := by
  rw [SortedMap.get?_extend, quiet_get? other, Option.none_or]

theorem firstCache_node {index : Nat} :
    (firstCache settings index).get? "node" = some (.ofNat index) := by
  rw [firstCache, get?_extend_quiet (by simp)]
  exact SortedMap.get?_insertAll_of_mem (by simp) (by simp)

theorem memoryController_node :
    (memoryController settings descriptor).get? "node_id" = some (.ofNat descriptor.node) := by
  rw [memoryController, get?_extend_quiet (by simp),
    SortedMap.get?_insertAll_of_not_mem (interleaving_keys (by simp))]
  exact SortedMap.get?_insertAll_of_mem (by simp) (by simp)

theorem backend_get?_node : (backend settings).get? "node_id" = none := by
  rw [backend, get?_extend_quiet (by simp)]
  exact SortedMap.get?_insertAll_of_not_mem (by simp)

theorem acceleratorBackend_node {node : Nat} :
    (acceleratorBackend settings node).get? "node_id" = some (.ofNat node) := by
  rw [acceleratorBackend, SortedMap.get?_extend, backend_get?_node, Option.none_or]
  exact SortedMap.get?_insertAll_of_mem (by simp) (by simp)

theorem router_ports {ports : Nat} :
    (router settings ports).get? "num_ports" = some (.text (toString ports)) := by
  rw [router, get?_extend_quiet (by simp)]
  exact SortedMap.get?_insertAll_of_mem (by simp) (by simp)

/-- The routing tags of an interface are set last. -/
theorem networkInterface_of_tags {tags : RoutingTags} {name : String} {value : Parameter}
    (tagged : tags.parameters.get? name = some value) :
    (networkInterface settings tags).get? name = some value := by
  rw [networkInterface, SortedMap.get?_extend, tagged, Option.some_or]

end Table

namespace Partitioned

variable {settings : Settings} {partitioned : Partitioned} {latency : Latency}

section Recorded

variable (isFor : partitioned.IsFor settings) {name : String} {table : Parameters}

include isFor

/-- **The host has recorded what a component was created with.** -/
theorem IsFor.parameter?_of_creates (creates : Creates partitioned.components name table)
    (key : String) : (partitioned.graph latency).parameter? name key = table.get? key := by
  obtain ⟨component, member, rfl, filled⟩ := creates
  rw [ComponentGraph.parameter?, isFor.parameters?_of_mem member, Option.bind_some, filled,
    SortedMap.get?_extend]
  exact Option.or_none

theorem IsFor.parameter?_of_processingNode {driver : Core} (driven : Core.ofSettings settings = driver)
    {index : Nat} (inside : index < settings.compute.processingNodes.toNat)
    (creates : Creates (ProcessingNode.components settings driver index (Part.width driver * index))
      name table) (key : String) :
    (partitioned.graph latency).parameter? name key = table.get? key := by
  obtain ⟨component, member, described⟩ := creates
  refine isFor.parameter?_of_creates ⟨component, ?_, described⟩ key
  refine List.mem_append_left _ (List.mem_append_left _ (List.mem_append_left _ ?_))
  rw [isFor.settings_eq, driven]
  exact List.mem_flatMap.2 ⟨index, List.mem_range'_1.2 ⟨Nat.zero_le _, by omega⟩, member⟩

theorem IsFor.parameter?_of_memoryNode {descriptor : NodeDescriptor}
    (shared : descriptor ∈ partitioned.descriptors)
    (creates : Creates (MemoryNode.components settings descriptor (Part.width (Core.ofSettings settings) *
      settings.compute.processingNodes.toNat + 4 + 4 * descriptor.node)) name table) (key : String) :
    (partitioned.graph latency).parameter? name key = table.get? key := by
  obtain ⟨component, member, described⟩ := creates
  refine isFor.parameter?_of_creates ⟨component, ?_, described⟩ key
  refine List.mem_append_left _ (List.mem_append_right _ ?_)
  rw [isFor.settings_eq]
  exact List.mem_flatMap.2 ⟨descriptor, shared, member⟩

theorem IsFor.parameter?_of_shared
    (creates : Creates (Cluster.sharedComponents settings sharedCacheNode
      (Part.width (Core.ofSettings settings) * settings.compute.processingNodes.toNat)) name table)
    (key : String) : (partitioned.graph latency).parameter? name key = table.get? key := by
  obtain ⟨component, member, described⟩ := creates
  refine isFor.parameter?_of_creates ⟨component, ?_, described⟩ key
  refine List.mem_append_left _ (List.mem_append_left _ ?_)
  rw [isFor.settings_eq]
  exact List.mem_append_right _ member

theorem IsFor.parameter?_of_router
    (creates : Creates (Populated.routerComponents settings
      (Layout.ofSettings settings).routerPorts.count partitioned.nodeComponents.length) name table)
    (key : String) : (partitioned.graph latency).parameter? name key = table.get? key := by
  obtain ⟨component, member, described⟩ := creates
  refine isFor.parameter?_of_creates ⟨component, ?_, described⟩ key
  rw [components, isFor.settings_eq]
  exact List.mem_append_right _ member

/-- The descriptor of every memory node is at its place. -/
theorem IsFor.descriptor_of_lt {node : Nat} (inside : node < settings.memory.nodes.toNat) :
    ∃ descriptor, partitioned.descriptors[node]? = some descriptor ∧ descriptor.node = node := by
  have numbered := congrArg (fun numbers => numbers[node]?) isFor.numbered
  rw [List.getElem?_map, List.getElem?_range inside] at numbered
  exact Option.map_eq_some_iff.1 numbered

/-- **Whatever is numbered has its number.** -/
theorem IsFor.carriesNumbers :
    (partitioned.graph latency).CarriesNumbers settings partitioned.descriptors := by
  have numbers {count : Nat} (small : count < Word.count) {index : Nat} (inside : index < count) :
      (UInt64.ofNat index).toNat = index := Word.toNat_ofNat (Nat.lt_trans inside small)
  refine ⟨fun index inside => ?_, fun program index inside => ?_, fun index inside => ?_,
    fun node inside => ?_, fun node inside => ?_, ?_, ?_, fun node inside => ?_⟩
  · cases driven : Core.ofSettings settings with
    | program =>
        rw [isFor.parameter?_of_processingNode driven inside creates_program]
        exact SortedMap.get?_insertAll_of_mem (by simp) (by simp)
    | generator workload =>
        rw [isFor.parameter?_of_processingNode driven inside creates_generator]
        exact (SortedMap.get?_insert _ _ _ _).trans (if_pos rfl)
  · have below := isFor.sound.inside index inside
    obtain ⟨first, whole⟩ := WorkingSet.placed_toNat below
    refine ⟨below, (WorkingSet.placed index settings.memory.totalBytes).heapBuffer,
      (WorkingSet.placed index settings.memory.totalBytes).memorySize, ?_, ?_, first, by
        rw [← whole, first, workingSetStride, Nat.add_sub_cancel_left]⟩
    all_goals
      rw [isFor.parameter?_of_processingNode program inside creates_program]
      exact SortedMap.get?_insertAll_of_mem (by simp) (by simp)
  · refine ⟨_, ?_, numbers (Word.toNat_lt_count _) inside⟩
    rw [isFor.parameter?_of_processingNode rfl inside creates_firstCache]
    exact Table.firstCache_node
  · obtain ⟨descriptor, found, rfl⟩ := isFor.descriptor_of_lt inside
    have shared := List.mem_of_getElem? found
    refine ⟨_, ?_, ?_, numbers (Word.toNat_lt_count _) inside⟩
    · rw [isFor.parameter?_of_memoryNode shared creates_controller]
      exact Table.memoryController_node
    · rw [isFor.parameter?_of_memoryNode shared creates_accelerator]
      exact Table.acceleratorBackend_node
  · obtain ⟨descriptor, found, rfl⟩ := isFor.descriptor_of_lt inside
    have shared := List.mem_of_getElem? found
    refine ⟨descriptor, found, rfl, ?_, ?_⟩
    all_goals
      rw [isFor.parameter?_of_memoryNode shared creates_controller]
      exact Table.memoryController_range (by simp)
  · have count : (Layout.ofSettings settings).routerPorts.count = settings.memory.nodes.toNat + 1 := by
      simp [RouterPorts.count, Layout.routerPorts, Layout.ofSettings, Nat.add_comm]
    rw [isFor.parameter?_of_router creates_router, Table.router_ports, count]
  · rw [isFor.parameter?_of_shared creates_cacheInterface]
    exact Table.networkInterface_of_tags rfl
  · obtain ⟨descriptor, found, rfl⟩ := isFor.descriptor_of_lt inside
    have shared := List.mem_of_getElem? found
    refine ⟨?_, ?_, ?_⟩
    all_goals
      rw [isFor.parameter?_of_memoryNode shared creates_memoryInterface]
      exact Table.networkInterface_of_tags rfl

end Recorded

end Partitioned

/-! ## Built fabrics -/

namespace Topology

variable {settings : Settings} {tracker : Tracker} {topology : Topology} {recorder : Recorder}

end Topology

end MemoryFabric

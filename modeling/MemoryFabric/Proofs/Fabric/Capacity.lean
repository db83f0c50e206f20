import MemoryFabric.Proofs.Address.Share
import MemoryFabric.Proofs.Fabric.NumberedParameters

/-!
# The capacity of a memory node

Which addresses a node owns follows from granules and envelopes; how much memory its controller and its
backends are given is the size of the memory divided by the number of nodes.  The two agree in every
configuration with an accepted partition, and no byte is lost to the division.

Main statement: **`nodes_own_capacity`**.
-/

namespace MemoryFabric

set_option autoImplicit false

namespace ComponentGraph

/-- The size that a reader finds in a parameter of the component of a name. -/
def size? (graph : ComponentGraph) (name key : String) : Option UInt64 :=
  (graph.parameters? name).bind fun parameters => Parameters.size? parameters key

theorem size?_of_parameter? {graph : ComponentGraph} {name key : String} {size : UInt64}
    (written : graph.parameter? name key = some (.text (ByteSize.written size))) :
    graph.size? name key = some size := by
  obtain ⟨parameters, recorded, found⟩ := Option.bind_eq_some_iff.1 written
  rw [size?, recorded, Option.bind_some, Table.size?_written found]

/-- The controller and both backends of a memory node have been given a memory of one size. -/
structure GivesMemory (graph : ComponentGraph) (node : Nat) (size : UInt64) : Prop where
  controller : graph.size? ("memory" ++ toString node) "backend.mem_size" = some size
  accelerator : graph.size? ("memory" ++ toString node ++ ".backend") "mem_size" = some size
  storage : graph.size? ("memory" ++ toString node ++ ".backend.backend") "mem_size" = some size

end ComponentGraph

/-! ## Sizes in the tables -/

namespace Table

variable {settings : Settings}

/-- The tables for the controller and both backends of a memory node say one size. -/
structure SayMemory (settings : Settings) (descriptor : NodeDescriptor) (size : UInt64) : Prop where
  controller : Parameters.size? (memoryController settings descriptor) "backend.mem_size" = some size
  accelerator : Parameters.size? (acceleratorBackend settings descriptor.node) "mem_size" = some size
  storage : Parameters.size? (storageBackend settings) "mem_size" = some size

theorem memoryController_size {descriptor : NodeDescriptor} :
    (memoryController settings descriptor).get? "backend.mem_size" =
      some (.text (ByteSize.written (nodeCapacity settings))) := by
  rw [memoryController, get?_extend_quiet (by simp),
    SortedMap.get?_insertAll_of_not_mem (interleaving_keys (by simp))]
  exact SortedMap.get?_insertAll_of_mem (by simp) (by simp)

/-- What both backends share is set last. -/
theorem get?_extend_backend_size {table : Parameters} :
    (table.extend (backend settings)).get? "mem_size" =
      some (.text (ByteSize.written (nodeCapacity settings))) := by
  have shared : (backend settings).get? "mem_size" =
      some (.text (ByteSize.written (nodeCapacity settings))) := by
    rw [backend, get?_extend_quiet (by simp)]
    exact SortedMap.get?_insertAll_of_mem (by simp) (by simp)
  rw [SortedMap.get?_extend, shared, Option.some_or]

theorem sayMemory (settings : Settings) (descriptor : NodeDescriptor) :
    SayMemory settings descriptor (nodeCapacity settings) where
  controller := size?_written memoryController_size
  accelerator := size?_written get?_extend_backend_size
  storage := size?_written get?_extend_backend_size

end Table

namespace Partitioned

variable {settings : Settings} {partitioned : Partitioned}

theorem creates_storage {descriptor : NodeDescriptor} {base : Nat} :
    Creates (MemoryNode.components settings descriptor base)
      ("memory" ++ toString descriptor.node ++ ".backend.backend") (Table.storageBackend settings) := by
  refine ⟨_, List.mem_cons_of_mem _ (List.mem_cons_of_mem _ List.mem_cons_self), ?_, ?_⟩
  · show (Part.storage descriptor.node).name = _
    simp [Part.name, MemoryNode.nodeName, String.append_assoc]
  · simp only [parameters_extend, parameters_bare]

/-- The host has recorded the size that the tables say. -/
theorem IsFor.givesMemory (isFor : partitioned.IsFor settings) {latency : Latency} {node : Nat}
    (below : node < settings.memory.nodes.toNat) :
    (partitioned.graph latency).GivesMemory node (Table.nodeCapacity settings) := by
  obtain ⟨descriptor, found, rfl⟩ := isFor.descriptor_of_lt below
  have shared := List.mem_of_getElem? found
  refine ⟨?_, ?_, ?_⟩ <;> apply ComponentGraph.size?_of_parameter?
  · rw [isFor.parameter?_of_memoryNode shared creates_controller, Table.memoryController_size]
  · rw [isFor.parameter?_of_memoryNode shared creates_accelerator]
    exact Table.get?_extend_backend_size
  · rw [isFor.parameter?_of_memoryNode shared creates_storage]
    exact Table.get?_extend_backend_size

/-- **Every node owns exactly the capacity that it is given.**  As many addresses of the space are decoded to
it, these capacities add up to the whole memory, and this is the size that the tables and, in a built fabric,
the recorded parameters of its controller and its backends say. -/
theorem nodes_own_capacity (made : ofSettings settings = .ok partitioned) :
    (∀ node < settings.memory.nodes.toNat,
      {address | address < settings.memory.totalBytes ∧
        partitioned.decoder.decode address = .ok (some node)}.ncard =
          (Table.nodeCapacity settings).toNat) ∧
      settings.memory.nodes.toNat * (Table.nodeCapacity settings).toNat =
        settings.memory.totalBytes.toNat ∧
      (∀ descriptor ∈ partitioned.descriptors,
        Table.SayMemory settings descriptor (Table.nodeCapacity settings)) ∧
      ∀ tracker topology recorder,
        Topology.buildFresh tracker settings = .ok (.ok topology, recorder) →
          ∀ node < settings.memory.nodes.toNat,
            recorder.graph.GivesMemory node (Table.nodeCapacity settings) := by
  have isFor := isFor_of_ofSettings made
  obtain ⟨shares, whole⟩ := ncard_owned isFor.shared isFor.covered
  rw [Table.nodeCapacity_toNat isFor.sound.memoryNodes]
  refine ⟨shares, Nat.mul_div_cancel' whole, fun descriptor _ => Table.sayMemory settings descriptor, ?_⟩
  intro tracker topology recorder built node below
  obtain ⟨_, latency, _, _, same, _, _, _, _, graph_eq⟩ := Topology.buildFresh_ok built
  cases made.symm.trans same
  rw [graph_eq]
  exact isFor.givesMemory below

/-- Three nodes that take turns of a cache line in six lines own two lines each. -/
theorem nodes_own_capacity_sixLines : ∃ partitioned,
    ofSettings { memory := { totalBytes := 384, nodes := 3, interleave := .small } } = .ok partitioned ∧
      {address | address < 384 ∧ partitioned.decoder.decode address = .ok (some 1)}.ncard = 128 := by
  have made : ∃ partitioned, ofSettings
      { memory := { totalBytes := 384, nodes := 3, interleave := .small } } = .ok partitioned := ⟨_, rfl⟩
  obtain ⟨partitioned, made⟩ := made
  exact ⟨partitioned, made, (nodes_own_capacity made).1 1 (by decide)⟩

end Partitioned

end MemoryFabric

import MemoryFabric.Proofs.Fabric.ProcessingNodeCreation
import MemoryFabric.Proofs.Port.Allocation

/-!
# The components of a cluster

A cluster creates its processing nodes one behind the other, and then what they share.  It can be created
behind anything else, so its components are told from the number of the first one (`yields_createFrom`).  In a
fabric the cluster comes first, so the number of every component is known (`yields_create`).
-/

namespace MemoryFabric

set_option autoImplicit false

namespace Cluster

section Creation

variable {settings : Settings} {core : Core}

/-- The components of the processing nodes with numbers from `start` on. -/
def nodeComponents (settings : Settings) (core : Core) (start count : Nat) : List Component :=
  (List.range' start count).flatMap fun index =>
    ProcessingNode.components settings core index (Part.width core * index)

/-- The components of the processing nodes with numbers from `start` on, where those of the node with the
number 0 would begin at `base`. -/
def nodeComponentsFrom (settings : Settings) (core : Core) (base start count : Nat) : List Component :=
  (List.range' start count).flatMap fun index =>
    ProcessingNode.components settings core index (base + Part.width core * index)

theorem nodeComponentsFrom_zero {start count : Nat} :
    nodeComponentsFrom settings core 0 start count = nodeComponents settings core start count := by
  simp only [nodeComponentsFrom, Nat.zero_add]
  rfl

theorem names_nodeComponentsFrom {base start count : Nat} :
    (nodeComponentsFrom settings core base start count).map Component.name =
      ((List.range' start count).flatMap (Part.ofNode core)).map Part.name := by
  simp only [nodeComponentsFrom, List.map_flatMap, ProcessingNode.names_components]

theorem length_nodeComponentsFrom {base start count : Nat} :
    (nodeComponentsFrom settings core base start count).length = Part.width core * count := by
  rw [nodeComponentsFrom, List.length_flatMap]
  simp [ProcessingNode.length_components, Nat.mul_comm]

theorem length_nodeComponents {start count : Nat} :
    (nodeComponents settings core start count).length = Part.width core * count := by
  rw [← nodeComponentsFrom_zero, length_nodeComponentsFrom]

/-- The node is the one of its number in a cluster that begins at `base`. -/
def IsNodeFrom (core : Core) (base index : Nat) (node : ProcessingNode) : Prop :=
  ∃ entity, node = ProcessingNode.located entity core index (base + Part.width core * index)

theorem IsNodeFrom.isLocated {index : Nat} {node : ProcessingNode} (own : IsNodeFrom core 0 index node) :
    ProcessingNode.IsLocated core index node := by
  obtain ⟨entity, rfl⟩ := own
  exact ⟨entity, by rw [Nat.zero_add]⟩

/-- The nodes behind one that has been created are still to come. -/
theorem lacks_nodesBehind {graph : ComponentGraph} {start count base : Nat}
    (lacks : graph.Lacks fun part => part ∈ (List.range' (start + 1) count).flatMap (Part.ofNode core)) :
    (graph.pushAll (ProcessingNode.components settings core start base)).Lacks fun part =>
      part ∈ (List.range' (start + 1) count).flatMap (Part.ofNode core) := by
  refine lacks.pushAll ProcessingNode.names_components fun part member earlier => ?_
  obtain ⟨index, behind, member⟩ := List.mem_flatMap.1 member
  have same := Part.eq_of_mem_ofNode earlier member
  have inside := (List.mem_range'_1.1 behind).1
  omega

/-- **Processing nodes are created one behind the other.** -/
theorem yields_createNodes (entity : EntityHandle) {graph : ComponentGraph}
    (created : List ProcessingNode) {base start count : Nat} (opened : graph.isFinalized = false)
    (size : graph.components.size = base + Part.width core * start)
    (lacks : graph.Lacks fun part => part ∈ (List.range' start count).flatMap (Part.ofNode core))
    (inside : core = .program → ∀ index < start + count,
      index * workingSetStride < settings.memory.totalBytes.toNat) :
    (createNodes entity settings core created (List.range' start count)).Yields
      (count * (Part.width core + 1)) graph fun nodes after =>
        (∃ more, nodes = created ++ more ∧
          List.Forall₂ (IsNodeFrom core base) (List.range' start count) more) ∧
        after = graph.pushAll (nodeComponentsFrom settings core base start count) := by
  induction count generalizing graph start created with
  | zero =>
      refine (Build.Yields.pure _ _ _).weaken (Nat.le_refl _) ?_
      rintro _ _ ⟨rfl, rfl⟩
      exact ⟨⟨[], (List.append_nil _).symm, .nil⟩, rfl⟩
  | succ count ih =>
      rw [List.range'_succ, List.flatMap_cons] at lacks
      have core_free := lacks (.core start)
        (List.mem_append_left _ (by cases core <;> simp [Part.ofNode]))
      have cache_free := lacks (.firstCache start)
        (List.mem_append_left _ (by cases core <;> simp [Part.ofNode]))
      have next : (count + 1) * (Part.width core + 1) - (Part.width core + 1) =
          count * (Part.width core + 1) := by
        rw [Nat.succ_mul, Nat.add_sub_cancel]
      refine ((ProcessingNode.yields_create entity core opened core_free cache_free
        fun program => inside program start (by omega)).orRelease _).bind
          (Nat.le_mul_of_pos_left _ (Nat.succ_pos count)) ?_
      rintro node _ ⟨⟨own, rfl⟩, rfl⟩
      rw [next, size]
      refine (ih (created ++ [_]) (by simpa using opened) ?_
        (lacks_nodesBehind (lacks.mono fun _ => List.mem_append_right _)) fun program index below =>
          inside program index (by omega)).weaken (Nat.le_refl _) ?_
      · rw [ComponentGraph.pushAll_size, size, ProcessingNode.length_components, Nat.mul_succ, Nat.add_assoc]
      · rintro nodes _ ⟨⟨more, rfl, located⟩, rfl⟩
        refine ⟨⟨_ :: more, List.append_assoc _ _ _, .cons ⟨own, rfl⟩ located⟩, ?_⟩
        rw [← ComponentGraph.pushAll_append]
        rfl

/-- The components that the processing nodes share, the first of which gets the number `base`. -/
def sharedComponents (settings : Settings) (cacheNode base : Nat) : List Component :=
  [(Component.bare Part.bus.name Kind.bus none).extend (Table.bus settings),
    (((Component.bare Part.secondCache.name Kind.cache none).extend
      (Table.secondCache settings cacheNode)).fill "cpulink" ⟨base + 2⟩).fill "memlink" ⟨base + 3⟩,
    (Component.bare Part.memoryLink.name Kind.memoryLink
      (some (⟨base + 1⟩, "cpulink"))).extend Table.memoryLink,
    (Component.bare Part.cacheInterface.name Kind.networkInterface
      (some (⟨base + 1⟩, "memlink"))).extend (Table.networkInterface settings .compute)]

theorem names_sharedComponents {cacheNode base : Nat} :
    (sharedComponents settings cacheNode base).map Component.name = Part.shared.map Part.name := rfl

theorem yields_createShared (entity : EntityHandle) (cacheNode : Nat) (ports : List PortId)
    (nodes : List ProcessingNode) {graph : ComponentGraph} (opened : graph.isFinalized = false)
    (bus_free : graph.componentByName.contains Part.bus.name = false)
    (cache_free : graph.componentByName.contains Part.secondCache.name = false) :
    (createShared entity settings cacheNode ports nodes).Yields 4 graph fun cluster after =>
      cluster = ⟨entity, nodes, ⟨graph.components.size⟩, ports, ⟨graph.components.size + 1⟩,
        ⟨graph.components.size + 2⟩, ⟨graph.components.size + 3⟩,
        ⟨Part.cacheInterface.name, PortName.single⟩⟩ ∧
      after = graph.pushAll (sharedComponents settings cacheNode graph.components.size) := by
  have cache_absent : Part.secondCache.name ∉ ([] ++ [(Component.bare Part.bus.name Kind.bus
      none).extend (Table.bus settings)]).map Component.name :=
    @Part.name_not_mem .secondCache [.bus] (by simp)
  refine (@Build.yields_createWith graph [] _ _ _ opened (by decide) (Part.name_ne_empty .bus)
    List.not_mem_nil bus_free).bind (by decide) ?_
  rintro _ _ ⟨rfl, rfl⟩
  refine (Build.yields_createWith _ opened (by decide) (Part.name_ne_empty .secondCache) cache_absent
    cache_free).bind (by decide) ?_
  rintro _ _ ⟨rfl, rfl⟩
  refine (Build.yields_attachWith 1 _ opened (by decide) (by decide) rfl rfl).bind (by decide) ?_
  rintro _ _ ⟨rfl, rfl⟩
  refine (Build.yields_attachWith 1 _ opened (by decide) (by decide) rfl rfl).bind (by decide) ?_
  rintro _ _ ⟨rfl, rfl⟩
  refine (Build.yields_portOf _ ComponentGraph.component?_pushAll).bind (Nat.zero_le _) ?_
  rintro _ _ ⟨rfl, rfl⟩
  refine (Build.yields_log _ _ _ _).bind (Nat.zero_le _) ?_
  rintro _ _ rfl
  refine (Build.Yields.pure _ _ _).weaken (Nat.le_refl _) ?_
  rintro _ _ ⟨rfl, rfl⟩
  exact ⟨rfl, rfl⟩

/-- The cluster is the one of a fabric with so many processing nodes. -/
structure IsLocated (core : Core) (processingNodes : Nat) (cluster : Cluster) : Prop where
  nodes : List.Forall₂ (ProcessingNode.IsLocated core) (List.range processingNodes) cluster.nodes
  bus : cluster.bus = ⟨Part.width core * processingNodes⟩
  busPorts : cluster.busPorts = (List.range processingNodes).map (busPort busName)
  memoryLink : cluster.memoryLink = ⟨Part.width core * processingNodes + 2⟩
  interface : cluster.interface = ⟨Part.width core * processingNodes + 3⟩
  uplink : cluster.uplink = ⟨Part.cacheInterface.name, PortName.single⟩

/-- The parts of a cluster. -/
def parts (settings : Settings) : List Part :=
  (List.range settings.compute.processingNodes.toNat).flatMap (Part.ofNode (Core.ofSettings settings)) ++
    Part.shared

/-- The components of a cluster in a fabric. -/
def components (settings : Settings) (cacheNode : Nat) : List Component :=
  let core := Core.ofSettings settings
  let count := settings.compute.processingNodes.toNat
  nodeComponents settings core 0 count ++
    sharedComponents settings cacheNode (Part.width core * count)

/-- The components of a cluster, the first of which gets the number `base`. -/
def componentsFrom (settings : Settings) (cacheNode base : Nat) : List Component :=
  let core := Core.ofSettings settings
  let count := settings.compute.processingNodes.toNat
  nodeComponentsFrom settings core base 0 count ++
    sharedComponents settings cacheNode (base + Part.width core * count)

theorem componentsFrom_zero {cacheNode : Nat} :
    componentsFrom settings cacheNode 0 = components settings cacheNode := by
  simp only [componentsFrom, components, nodeComponentsFrom_zero, Nat.zero_add]

theorem names_componentsFrom {cacheNode base : Nat} :
    (componentsFrom settings cacheNode base).map Component.name = (parts settings).map Part.name := by
  rw [componentsFrom, parts, List.map_append, names_nodeComponentsFrom, names_sharedComponents, List.map_append,
    List.range_eq_range']

theorem names_components {cacheNode : Nat} :
    (components settings cacheNode).map Component.name =
      ((List.range settings.compute.processingNodes.toNat).flatMap
        (Part.ofNode (Core.ofSettings settings)) ++ Part.shared).map Part.name := by
  rw [← componentsFrom_zero, names_componentsFrom, parts]

/-- The cluster is the one of so many processing nodes that begins at `base`. -/
structure IsLocatedFrom (core : Core) (processingNodes base : Nat) (cluster : Cluster) : Prop where
  nodes : List.Forall₂ (IsNodeFrom core base) (List.range processingNodes) cluster.nodes
  bus : cluster.bus = ⟨base + Part.width core * processingNodes⟩
  busPorts : cluster.busPorts = (List.range processingNodes).map (busPort busName)
  memoryLink : cluster.memoryLink = ⟨base + Part.width core * processingNodes + 2⟩
  interface : cluster.interface = ⟨base + Part.width core * processingNodes + 3⟩
  uplink : cluster.uplink = ⟨Part.cacheInterface.name, PortName.single⟩

theorem IsLocatedFrom.isLocated {processingNodes : Nat} {cluster : Cluster}
    (located : cluster.IsLocatedFrom core processingNodes 0) : cluster.IsLocated core processingNodes where
  nodes := located.nodes.imp fun _ _ => IsNodeFrom.isLocated
  bus := by rw [located.bus, Nat.zero_add]
  busPorts := located.busPorts
  memoryLink := by rw [located.memoryLink, Nat.zero_add]
  interface := by rw [located.interface, Nat.zero_add]
  uplink := located.uplink

/-- The number of the entities of a cluster. -/
def entityCount (settings : Settings) : Nat :=
  settings.compute.processingNodes.toNat * (Part.width (Core.ofSettings settings) + 1) + 5

/-- What the processing nodes share is still to come when they have been created. -/
theorem lacks_shared {graph : ComponentGraph} {base start count : Nat}
    (lacks : graph.Lacks fun part => part ∈ Part.shared) :
    (graph.pushAll (nodeComponentsFrom settings core base start count)).Lacks
      fun part => part ∈ Part.shared := by
  refine lacks.pushAll names_nodeComponentsFrom fun part shared earlier => ?_
  obtain ⟨index, _, member⟩ := List.mem_flatMap.1 earlier
  exact Part.not_mem_shared_of_mem_ofNode member shared

/-- **A cluster can be created in every open graph in which the names of its parts are free.** -/
theorem yields_createFrom (parent : EntityHandle) (cacheNode : Nat) {graph : ComponentGraph}
    (opened : graph.isFinalized = false) (lacks : graph.Lacks fun part => part ∈ parts settings)
    (inhabited : settings.compute.processingNodes.toNat ≠ 0)
    (inside : ∀ index < settings.compute.processingNodes.toNat,
      index * workingSetStride < settings.memory.totalBytes.toNat) :
    (create parent settings cacheNode).Yields (entityCount settings) graph fun cluster after =>
      cluster.IsLocatedFrom (Core.ofSettings settings) settings.compute.processingNodes.toNat
          graph.components.size ∧
        after = graph.pushAll (componentsFrom settings cacheNode graph.components.size) := by
  have ports : Attempt.reporting (MemoryFabric.busPorts busName
      settings.compute.processingNodes.toNat) = .ok ((List.range
        settings.compute.processingNodes.toNat).map (busPort busName)) := by
    rw [busPorts_eq busName inhabited]
    rfl
  refine (Build.yields_ofBuilt ports _).bind (Nat.zero_le _) ?_
  rintro _ _ ⟨rfl, rfl⟩
  refine (Build.yields_createEntity _ _ _).bind (by rw [entityCount]; omega) ?_
  rintro entity graph rfl
  refine Build.Yields.orRelease ?_ _
  rw [createParts, List.range_eq_range']
  rw [parts, List.range_eq_range'] at lacks
  refine (yields_createNodes entity [] opened (Nat.add_zero _).symm
    (lacks.mono fun _ => List.mem_append_left _) fun _ index below => inside index (by omega)).bind
      (by rw [entityCount]; omega) ?_
  rintro nodes _ ⟨⟨more, grown, located⟩, rfl⟩
  obtain rfl : nodes = more := grown
  have remaining : entityCount settings - 0 - 1 -
      settings.compute.processingNodes.toNat * (Part.width (Core.ofSettings settings) + 1) = 4 := by
    rw [entityCount]
    omega
  rw [remaining]
  have shared_lacks : (graph.pushAll (nodeComponentsFrom settings (Core.ofSettings settings)
      graph.components.size 0 settings.compute.processingNodes.toNat)).Lacks
        fun part => part ∈ Part.shared := lacks_shared (lacks.mono fun _ => List.mem_append_right _)
  have size : (graph.pushAll (nodeComponentsFrom settings (Core.ofSettings settings)
      graph.components.size 0 settings.compute.processingNodes.toNat)).components.size =
        graph.components.size +
          Part.width (Core.ofSettings settings) * settings.compute.processingNodes.toNat := by
    rw [ComponentGraph.pushAll_size, length_nodeComponentsFrom]
  refine ((yields_createShared entity cacheNode _ nodes (by simpa using opened)
    (shared_lacks _ (by simp [Part.shared])) (shared_lacks _ (by simp [Part.shared]))).orRelease
      _).weaken (Nat.le_refl 4) ?_
  rintro _ _ ⟨rfl, rfl⟩
  rw [size, ← ComponentGraph.pushAll_append]
  refine ⟨⟨?_, rfl, ?_, rfl, rfl, rfl⟩, rfl⟩
  · rw [List.range_eq_range']
    exact located
  · rw [List.range_eq_range']

/-- **A cluster can be created in an open graph without components.** -/
theorem yields_create (parent : EntityHandle) (cacheNode : Nat) {graph : ComponentGraph}
    (opened : graph.isFinalized = false) (size : graph.components.size = 0)
    (lacks : graph.Lacks fun _ => True) (inhabited : settings.compute.processingNodes.toNat ≠ 0)
    (inside : ∀ index < settings.compute.processingNodes.toNat,
      index * workingSetStride < settings.memory.totalBytes.toNat) :
    (create parent settings cacheNode).Yields (entityCount settings) graph fun cluster after =>
      cluster.IsLocated (Core.ofSettings settings) settings.compute.processingNodes.toNat ∧
        after = graph.pushAll (components settings cacheNode) := by
  refine (yields_createFrom parent cacheNode opened (lacks.mono fun _ _ => trivial) inhabited
    inside).weaken (Nat.le_refl _) ?_
  rintro cluster _ ⟨located, rfl⟩
  rw [size] at located ⊢
  exact ⟨located.isLocated, by rw [componentsFrom_zero]⟩

end Creation

end Cluster

end MemoryFabric

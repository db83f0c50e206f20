import MemoryFabric.Proofs.Fabric.Linking
import MemoryFabric.Proofs.Fabric.Partitioned

/-!
# The phases of a build

For a configuration with a partition, each phase leads from the graph of the phase before it to a graph that
is known exactly.  The last one is the graph of the fabric (`Partitioned.graph`): all components of the
layout with their parameters, and all its links.
-/

namespace MemoryFabric

set_option autoImplicit false

/-- The layout that a configuration asks for. -/
def Layout.ofSettings (settings : Settings) : Layout :=
  ⟨Core.ofSettings settings, settings.compute.processingNodes.toNat, settings.memory.nodes.toNat⟩

namespace Partitioned

/-- The components that are there before the router. -/
def nodeComponents (partitioned : Partitioned) : List Component :=
  let layout := Layout.ofSettings partitioned.settings
  Cluster.components partitioned.settings sharedCacheNode ++
    MemoryNode.allComponents partitioned.settings (Part.width layout.core * layout.processingNodes + 4)
      partitioned.descriptors

/-- The components of the fabric. -/
def components (partitioned : Partitioned) : List Component :=
  partitioned.nodeComponents ++
    Populated.routerComponents partitioned.settings
      (Layout.ofSettings partitioned.settings).routerPorts.count partitioned.nodeComponents.length

/-- The links of the fabric. -/
def joints (partitioned : Partitioned) (latency : Latency) : List Joint :=
  (Layout.ofSettings partitioned.settings).wires.map
    ((Layout.ofSettings partitioned.settings).joint latency)

/-- The graph of the fabric, before its statistics are set up. -/
def linkedGraph (partitioned : Partitioned) (latency : Latency) : ComponentGraph :=
  (ComponentGraph.empty.pushAll partitioned.components).joinAll (partitioned.joints latency)

/-- The finished graph of the fabric. -/
def graph (partitioned : Partitioned) (latency : Latency) : ComponentGraph :=
  { partitioned.linkedGraph latency with
    statistics := some (Linked.statisticsSetup partitioned.settings)
    isFinalized := true }

/-! ## Creating the nodes -/

section Populating

variable {settings : Settings} {partitioned : Partitioned}

theorem length_clusterComponents :
    (Cluster.components settings sharedCacheNode).length =
      Part.width (Core.ofSettings settings) * settings.compute.processingNodes.toNat + 4 := by
  rw [Cluster.components, List.length_append, Cluster.length_nodeComponents]
  rfl

theorem IsFor.length_descriptors (isFor : partitioned.IsFor settings) :
    partitioned.descriptors.length = settings.memory.nodes.toNat := by
  rw [← List.length_map NodeDescriptor.node, isFor.numbered, List.length_range]

/-- **The components before the router are those of the layout.** -/
theorem IsFor.begins (isFor : partitioned.IsFor settings) :
    (Layout.ofSettings settings).Begins (Layout.ofSettings settings).nodeParts
      partitioned.nodeComponents := by
  refine ⟨?_, ⟨Part.ofRouter, rfl⟩⟩
  rw [nodeComponents, isFor.settings_eq, List.map_append, Cluster.names_components,
    MemoryNode.names_allComponents, isFor.numbered, ← List.map_append]
  rfl

/-- **The components of the fabric are all parts of the layout.** -/
theorem IsFor.begins_all (isFor : partitioned.IsFor settings) :
    (Layout.ofSettings settings).Begins (Layout.ofSettings settings).parts partitioned.components := by
  rw [components, isFor.settings_eq]
  exact Populated.begins_withRouter isFor.begins _ _ _

theorem memoryNode_not_mem_cluster {core : Core} {indices : List Nat} {node : Nat} {part : Part}
    (member : part ∈ Part.ofMemoryNode node) :
    part ∉ indices.flatMap (Part.ofNode core) ++ Part.shared := by
  cases core <;> cases part <;>
    simp [Part.ofMemoryNode, Part.ofNode, Part.shared] at member ⊢

/-- **The second phase creates all nodes.** -/
theorem IsFor.yields_populate (isFor : partitioned.IsFor settings) (fabric : EntityHandle) :
    (partitioned.populate fabric).Yields
      (Cluster.entityCount settings + settings.memory.nodes.toNat * 5) .empty fun populated after =>
        populated.toPartitioned = partitioned ∧
          populated.IsLocated (Layout.ofSettings settings) ∧
            after = ComponentGraph.empty.pushAll partitioned.nodeComponents := by
  have settings_eq := isFor.settings_eq
  have lacks : ComponentGraph.empty.Lacks fun _ => True := fun _ _ => rfl
  rw [populate]
  simp only [settings_eq]
  refine (Cluster.yields_create fabric sharedCacheNode rfl rfl lacks isFor.sound.processingNodes
    isFor.sound.inside).bind (Nat.le_add_right _ _) ?_
  rintro cluster _ ⟨located, rfl⟩
  rw [Nat.add_sub_cancel_left]
  have behind : (ComponentGraph.empty.pushAll (Cluster.components settings sharedCacheNode)).Lacks
      fun part => ∃ node, 0 ≤ node ∧ part ∈ Part.ofMemoryNode node := by
    refine (lacks.mono fun _ _ => trivial).pushAll Cluster.names_components ?_
    rintro part ⟨node, _, member⟩
    exact memoryNode_not_mem_cluster member
  have numbered : partitioned.descriptors.map NodeDescriptor.node =
      List.range' 0 partitioned.descriptors.length := by
    rw [isFor.numbered, isFor.length_descriptors, List.range_eq_range']
  have size : (ComponentGraph.empty.pushAll (Cluster.components settings
      sharedCacheNode)).components.size = Part.width (Core.ofSettings settings) *
        settings.compute.processingNodes.toNat + 4 + 4 * 0 := by
    rw [ComponentGraph.pushAll_size, length_clusterComponents]
    exact Nat.zero_add _
  have opened : (ComponentGraph.empty.pushAll (Cluster.components settings
      sharedCacheNode)).isFinalized = false := by
    rw [ComponentGraph.pushAll_isFinalized]
    rfl
  have nodes := MemoryNode.yields_createAll settings fabric [] opened size numbered behind
  rw [isFor.length_descriptors] at nodes
  refine (nodes.orRelease _).bind (Nat.le_refl _) ?_
  rintro memoryNodes _ ⟨⟨more, grown, memory⟩, rfl⟩
  obtain rfl : memoryNodes = more := grown
  refine (Build.yields_log _ _ _ _).bind (Nat.zero_le _) ?_
  rintro _ _ rfl
  refine (Build.Yields.pure _ _ _).weaken (Nat.le_refl _) ?_
  rintro _ _ ⟨rfl, rfl⟩
  refine ⟨rfl, ⟨located, isFor.numbered, memory⟩, ?_⟩
  rw [nodeComponents, settings_eq, ComponentGraph.pushAll_append]
  rfl

end Populating

end Partitioned

/-! ## Linking -/

section Linking

variable {settings : Settings} {partitioned : Partitioned} {populated : Populated} {latency : Latency}

theorem Partitioned.graph_links :
    (partitioned.linkedGraph latency).links = ((partitioned.joints latency).map Joint.link).toArray := by
  rw [linkedGraph, ComponentGraph.joinAll_links, ComponentGraph.pushAll_links]
  exact Array.empty_append

/-- The fabric has been linked. -/
structure Linked.IsOf (partitioned : Partitioned) (linked : Linked) : Prop where
  partitioned_eq : linked.toPartitioned = partitioned
  located : linked.toPopulated.IsLocated (Layout.ofSettings partitioned.settings)
  router : linked.router = (Layout.ofSettings partitioned.settings).handle .router
  routerPorts : linked.routerPorts = (Layout.ofSettings partitioned.settings).routerPorts
  records : linked.ledger.Records (Layout.ofSettings partitioned.settings).expected
    ((Layout.ofSettings partitioned.settings).ports (Layout.ofSettings partitioned.settings).wires)

/-- **The third phase makes all links.** -/
theorem Partitioned.IsFor.yields_link (isFor : partitioned.IsFor settings)
    (fits : Latency.ofNanoseconds settings.timing.linkLatency = .ok latency)
    (partitioned_eq : populated.toPartitioned = partitioned)
    (located : populated.IsLocated (Layout.ofSettings settings)) (fabric : EntityHandle) :
    (populated.link fabric).Yields 2 (ComponentGraph.empty.pushAll partitioned.nodeComponents)
      fun linked after => linked.toPopulated = populated ∧ linked.IsOf partitioned ∧
        after = partitioned.linkedGraph latency := by
  obtain rfl := isFor.settings_eq
  subst partitioned_eq
  refine Build.Yields.orRelease ?_ _
  have checked : Attempt.checked (Latency.ofNanoseconds populated.settings.timing.linkLatency) =
      (.ok latency : Built Latency) := by
    rw [fits]
    rfl
  have ports : Attempt.reporting (RouterPorts.ofMemoryNodes routerName populated.memoryNodes.length) =
      .ok (Layout.ofSettings populated.settings).routerPorts := by
    have inhabited : (Layout.ofSettings populated.settings).memoryNodes ≠ 0 := isFor.sound.memoryNodes
    rw [located.length_memoryNodes, RouterPorts.ofMemoryNodes_eq routerName inhabited]
    rfl
  refine (Build.yields_ofBuilt checked _).bind (Nat.zero_le _) ?_
  rintro latency _ ⟨rfl, rfl⟩
  refine (Build.yields_ofBuilt ports _).bind (Nat.zero_le _) ?_
  rintro _ _ ⟨rfl, rfl⟩
  refine Build.Yields.bind (Populated.yields_wire located isFor.begins) (Nat.le_refl _) ?_
  rintro ⟨router, ledger⟩ _ ⟨rfl, records, rfl⟩
  refine (Build.yields_log _ _ _ _).bind (Nat.zero_le _) ?_
  rintro _ _ rfl
  refine (Build.Yields.pure _ _ _).weaken (Nat.le_refl _) ?_
  rintro _ _ ⟨rfl, rfl⟩
  exact ⟨rfl, ⟨rfl, located, rfl, rfl, records⟩, rfl⟩

/-! ## Finalizing -/

/-- The topology is the one of a finished fabric. -/
structure Topology.IsOf (partitioned : Partitioned) (topology : Topology) : Prop where
  partitioned_eq : topology.toPartitioned = partitioned
  located : topology.toPopulated.IsLocated (Layout.ofSettings partitioned.settings)
  router : topology.router = (Layout.ofSettings partitioned.settings).handle .router
  routerPorts : topology.routerPorts = (Layout.ofSettings partitioned.settings).routerPorts
  allocated : topology.allocatedPorts = (Layout.ofSettings partitioned.settings).expected.length
  connected : topology.connectedPorts = (Layout.ofSettings partitioned.settings).expected.length

/-- **The last phase closes the graph.** -/
theorem Linked.IsOf.yields_finish {linked : Linked} (isOf : linked.IsOf partitioned)
    (latency : Latency) (fabric : EntityHandle) :
    (linked.finish fabric).Yields 0 (partitioned.linkedGraph latency) fun topology after =>
      topology.IsOf partitioned ∧ topology.entity = fabric ∧ after = partitioned.graph latency := by
  have opened : (partitioned.linkedGraph latency).isFinalized = false := by
    rw [Partitioned.linkedGraph, ComponentGraph.joinAll_isFinalized,
      ComponentGraph.pushAll_isFinalized]
    rfl
  have connected : ∀ link ∈ (partitioned.linkedGraph latency).links, link.ends.isSome = true := by
    intro link member
    rw [Partitioned.graph_links, List.mem_toArray, List.mem_map] at member
    obtain ⟨joint, _, rfl⟩ := member
    rfl
  have configured : (partitioned.linkedGraph latency).configureStatistics
      (Linked.statisticsSetup linked.settings) = .ok { partitioned.linkedGraph latency with
        statistics := some (Linked.statisticsSetup linked.settings) } := by
    rw [ComponentGraph.configureStatistics, ComponentGraph.checkOpen_of_open opened]
    rfl
  have closed : linked.close.Yields 0 (partitioned.linkedGraph latency) fun _ after =>
      after = partitioned.graph latency := by
    refine (Build.yields_configureStatistics configured).bind (Nat.le_refl 0) ?_
    rintro _ _ rfl
    refine (Build.yields_finalize (@ComponentGraph.finalize_of_connected
      { partitioned.linkedGraph latency with
        statistics := some (Linked.statisticsSetup linked.settings) } opened connected)).weaken
          (Nat.le_refl _) ?_
    rintro _ _ rfl
    rw [isOf.partitioned_eq]
    rfl
  refine (closed.orRelease _).bind (Nat.le_refl 0) ?_
  rintro _ _ rfl
  refine (Build.yields_log _ _ _ _).bind (Nat.zero_le _) ?_
  rintro _ _ rfl
  refine (Build.Yields.pure _ _ _).weaken (Nat.le_refl _) ?_
  rintro _ _ ⟨rfl, rfl⟩
  have distinct : (Layout.ofSettings partitioned.settings).expected.Nodup := Layout.expected_nodup
  refine ⟨⟨isOf.partitioned_eq, isOf.located, isOf.router, isOf.routerPorts, ?_, ?_⟩, rfl, rfl⟩
  · exact isOf.records.allocatedCount distinct
  · exact isOf.records.connectedCount (fun port known => Layout.expected_perm.mem_iff.1 known) distinct

end Linking

end MemoryFabric

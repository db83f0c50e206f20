import MemoryFabric.Proofs.Fabric.Lookups
import MemoryFabric.Proofs.Host.Forest

/-!
# The component tree of a built fabric

The numbers of processing nodes and memory nodes, what drives the cores and the storage model fix all
components, their kinds and the slots that they are in.  Components are created as the parts of the layout
(`Partitioned.IsFor.origins_components`), so the tree that the host has recorded is the expected one
(**`Partitioned.IsFor.placements`**).
-/

namespace MemoryFabric

set_option autoImplicit false

/-- Where a component is in the tree: its full name, its kind, and its parent with the slot that it is in. -/
structure Placement where
  name : String
  kind : String
  parent : Option (String × String)
  deriving DecidableEq

namespace ComponentGraph

/-- The placement of a component that was created like this, its parent by the full name. -/
def placement? (graph : ComponentGraph) (origin : Origin) : Option Placement :=
  match origin.parent with
  | none => some ⟨origin.name, origin.kind, none⟩
  | some (owner, slot) =>
    (graph.name? owner).map fun name => ⟨origin.name, origin.kind, some (name, slot)⟩

end ComponentGraph

/-! ## Expected components -/

/-- The components of a processing node: the core with what is in its slots, and the private cache. -/
def nodePlacements (core : Core) (index : Nat) : List Placement :=
  let name := "cpu" ++ toString index
  (match core with
    | .program =>
      [⟨name, Core.program.kind, none⟩,
        ⟨name ++ ".memory", Kind.coreController, some (name, "memory")⟩,
        ⟨name ++ ".memory.memIface", Kind.coreInterface, some (name ++ ".memory", "memIface")⟩]
    | .generator workload =>
      [⟨name, (Core.generator workload).kind, none⟩,
        ⟨name ++ ".generator", "AppGen." ++ workload, some (name, "generator")⟩]) ++
    [⟨"l1_" ++ toString index, Kind.cache, none⟩]

/-- The components that the processing nodes share. -/
def sharedPlacements : List Placement :=
  [⟨"cpubus", Kind.bus, none⟩, ⟨"l2cache", Kind.cache, none⟩,
    ⟨"l2cache.cpulink", Kind.memoryLink, some ("l2cache", "cpulink")⟩,
    ⟨"l2cache.memlink", Kind.networkInterface, some ("l2cache", "memlink")⟩]

/-- The components of a memory node. -/
def memoryNodePlacements (model : MemoryModel) (node : Nat) : List Placement :=
  let name := "memory" ++ toString node
  [⟨name, Kind.memoryController, none⟩,
    ⟨name ++ ".backend", Kind.acceleratorBackend, some (name, "backend")⟩,
    ⟨name ++ ".backend.backend", model.kind, some (name ++ ".backend", "backend")⟩,
    ⟨name ++ ".cpulink", Kind.networkInterface, some (name, "cpulink")⟩]

/-- The router with its topology. -/
def routerPlacements : List Placement :=
  [⟨"local_network", Kind.router, none⟩,
    ⟨"local_network.topology", "merlin.singlerouter", some ("local_network", "topology")⟩]

/-- All components of a fabric. -/
def fabricPlacements (core : Core) (model : MemoryModel) (processingNodes memoryNodes : Nat) :
    List Placement :=
  (List.range processingNodes).flatMap (nodePlacements core) ++ sharedPlacements ++
    (List.range memoryNodes).flatMap (memoryNodePlacements model) ++ routerPlacements

/-! ## Parts in the tree -/

namespace Part

/-- The kind of the component; only a core that is a generator has a part for the workload. -/
def kind (driver : Core) (model : MemoryModel) : Part → String
  | core _ => driver.kind
  | coreController _ => Kind.coreController
  | coreInterface _ => Kind.coreInterface
  | generator _ =>
    match driver with
    | .program => ""
    | .generator workload => Kind.generator workload
  | firstCache _ => Kind.cache
  | bus => Kind.bus
  | secondCache => Kind.cache
  | memoryLink => Kind.memoryLink
  | cacheInterface => Kind.networkInterface
  | controller _ => Kind.memoryController
  | accelerator _ => Kind.acceleratorBackend
  | storage _ => model.kind
  | memoryInterface _ => Kind.networkInterface
  | router => Kind.router
  | routerTopology => Table.routerTopology

/-- The part that the component is attached to, with the slot. -/
def parent? : Part → Option (Part × String)
  | coreController index => some (core index, "memory")
  | coreInterface index => some (coreController index, "memIface")
  | generator index => some (core index, "generator")
  | memoryLink => some (secondCache, "cpulink")
  | cacheInterface => some (secondCache, "memlink")
  | accelerator node => some (controller node, "backend")
  | storage node => some (accelerator node, "backend")
  | memoryInterface node => some (controller node, "cpulink")
  | routerTopology => some (router, "topology")
  | _ => none

/-- Where the component is in the tree. -/
def placement (driver : Core) (model : MemoryModel) (part : Part) : Placement :=
  ⟨part.name, part.kind driver model, part.parent?.map fun owner => (owner.1.name, owner.2)⟩

theorem placements_ofNode {driver : Core} {model : MemoryModel} {index : Nat} :
    (ofNode driver index).map (placement driver model) = nodePlacements driver index := by
  cases driver <;>
    simp [ofNode, placement, nodePlacements, name, kind, parent?, ProcessingNode.nodeName,
      ProcessingNode.cacheNameOf, Kind.generator, String.append_assoc]

theorem placements_ofMemoryNode {driver : Core} {model : MemoryModel} {node : Nat} :
    (ofMemoryNode node).map (placement driver model) = memoryNodePlacements model node := by
  simp [ofMemoryNode, placement, memoryNodePlacements, name, kind, parent?, MemoryNode.nodeName,
    String.append_assoc]

/-- **The parts of a fabric are the expected components.** -/
theorem placements_all {driver : Core} {model : MemoryModel} {processingNodes memoryNodes : Nat} :
    (all driver processingNodes memoryNodes).map (placement driver model) =
      fabricPlacements driver model processingNodes memoryNodes := by
  simp only [all, List.map_append, List.map_flatMap, placements_ofNode, placements_ofMemoryNode]
  rfl

/-- The parent of a part is there, too. -/
theorem parent_mem_all {driver : Core} {processingNodes memoryNodes : Nat} {part owner : Part}
    {slot : String} (member : part ∈ all driver processingNodes memoryNodes)
    (attached : part.parent? = some (owner, slot)) : owner ∈ all driver processingNodes memoryNodes := by
  cases driver <;> cases part <;>
    simp_all [all, ofNode, shared, ofMemoryNode, ofRouter, parent?] <;>
    obtain ⟨rfl, _⟩ := attached <;> simp_all

end Part

/-- What the component of a part is created with. -/
def Layout.origin (layout : Layout) (model : MemoryModel) (part : Part) : Origin :=
  ⟨part.name, part.kind layout.core model,
    part.parent?.map fun owner => (layout.handle owner.1, owner.2)⟩

/-! ## Recorded components -/

section Origins

variable {settings : Settings}

theorem ProcessingNode.origins_components {driver : Core} (driven : Core.ofSettings settings = driver)
    {index : Nat} :
    (ProcessingNode.components settings driver index (Part.width driver * index)).map Component.origin =
      (Part.ofNode driver index).map
        ((Layout.ofSettings settings).origin settings.memory.model) := by
  have layout_eq : Layout.ofSettings settings =
      ⟨driver, settings.compute.processingNodes.toNat, settings.memory.nodes.toNat⟩ := by
    rw [← driven]
    rfl
  rw [layout_eq]
  cases driver <;> rfl

theorem MemoryNode.origins_components {descriptor : NodeDescriptor} :
    (MemoryNode.components settings descriptor
        (Part.width (Layout.ofSettings settings).core * (Layout.ofSettings settings).processingNodes + 4 +
          4 * descriptor.node)).map Component.origin =
      (Part.ofMemoryNode descriptor.node).map
        ((Layout.ofSettings settings).origin settings.memory.model) := rfl

end Origins

namespace Partitioned

variable {settings : Settings} {partitioned : Partitioned} {latency : Latency}

/-- **The components are created as the parts of the layout.** -/
theorem IsFor.origins_components (isFor : partitioned.IsFor settings) :
    partitioned.components.map Component.origin =
      (Layout.ofSettings settings).parts.map
        ((Layout.ofSettings settings).origin settings.memory.model) := by
  have nodes : (Cluster.components settings sharedCacheNode).map Component.origin =
      ((List.range settings.compute.processingNodes.toNat).flatMap
        (Part.ofNode (Core.ofSettings settings)) ++ Part.shared).map
          ((Layout.ofSettings settings).origin settings.memory.model) := by
    simp only [Cluster.components, Cluster.nodeComponents, List.map_append, List.map_flatMap,
      ProcessingNode.origins_components rfl, List.range_eq_range']
    rfl
  have memory : (MemoryNode.allComponents settings (Part.width (Layout.ofSettings settings).core *
      (Layout.ofSettings settings).processingNodes + 4) partitioned.descriptors).map Component.origin =
        ((List.range settings.memory.nodes.toNat).flatMap Part.ofMemoryNode).map
          ((Layout.ofSettings settings).origin settings.memory.model) := by
    rw [← isFor.numbered]
    simp only [MemoryNode.allComponents, List.map_flatMap, List.flatMap_map,
      MemoryNode.origins_components]
  have router : (Populated.routerComponents settings (Layout.ofSettings settings).routerPorts.count
      partitioned.nodeComponents.length).map Component.origin =
        Part.ofRouter.map ((Layout.ofSettings settings).origin settings.memory.model) := by
    have length : partitioned.nodeComponents.length =
        ((Layout.ofSettings settings).handle .router).index := by
      rw [← Layout.length_nodeParts, ← List.length_map Part.name, ← isFor.begins.names, List.length_map]
    rw [length]
    rfl
  rw [components, isFor.settings_eq, List.map_append, router, nodeComponents, isFor.settings_eq,
    List.map_append, nodes, memory, ← List.map_append, ← List.map_append]
  rfl

theorem IsFor.name?_handle (isFor : partitioned.IsFor settings) {part : Part}
    (member : part ∈ (Layout.ofSettings settings).parts) :
    (partitioned.graph latency).name? ((Layout.ofSettings settings).handle part) = some part.name := by
  obtain ⟨component, found, name⟩ := isFor.begins_all.component? member
  rw [ComponentGraph.name?, graph_component?, found, Option.map_some, name]

/-- **The graph shows every part at its place in the tree.** -/
theorem IsFor.placement?_origin (isFor : partitioned.IsFor settings) {part : Part}
    (member : part ∈ (Layout.ofSettings settings).parts) :
    (partitioned.graph latency).placement?
        ((Layout.ofSettings settings).origin settings.memory.model part) =
      some (part.placement (Core.ofSettings settings) settings.memory.model) := by
  cases attached : part.parent? with
  | none =>
      simp only [ComponentGraph.placement?, Layout.origin, Part.placement, attached, Option.map_none]
      rfl
  | some owner =>
      have named := @IsFor.name?_handle _ _ latency isFor _ (Part.parent_mem_all member attached)
      simp only [ComponentGraph.placement?, Layout.origin, Part.placement, attached, Option.map_some,
        named]
      rfl

/-- **The components of the graph are the expected ones.** -/
theorem IsFor.placements (isFor : partitioned.IsFor settings) :
    (partitioned.graph latency).origins.map (partitioned.graph latency).placement? =
      (fabricPlacements (Core.ofSettings settings) settings.memory.model
        settings.compute.processingNodes.toNat settings.memory.nodes.toNat).map some := by
  have components : (partitioned.graph latency).origins =
      partitioned.components.map Component.origin := by
    have same : (partitioned.graph latency).components =
        (ComponentGraph.empty.pushAll partitioned.components).components :=
      ComponentGraph.joinAll_components
    have none : ComponentGraph.empty.components = #[] := rfl
    rw [ComponentGraph.origins, same, ComponentGraph.pushAll_eq, none, Array.empty_append]
  rw [components, isFor.origins_components, List.map_map, ← Part.placements_all, List.map_map]
  exact List.map_congr_left fun part member => isFor.placement?_origin member

end Partitioned

end MemoryFabric

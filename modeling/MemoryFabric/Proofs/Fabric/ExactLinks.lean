import MemoryFabric.Proofs.Fabric.Lookups
import MemoryFabric.Proofs.Fabric.Outcome

/-!
# The links of a built fabric

A host identifies a port by the handle of its component, a ledger by the full name.  In a built fabric both
name the same ports (`Partitioned.IsFor.portId?`), so what the ledger expects is what the host has bound, and
the links are those that the numbers of nodes ask for.

Main statement: **`buildFresh_links_exactly`**.
-/

namespace MemoryFabric

set_option autoImplicit false

namespace ComponentGraph

/-- A port by the full name of its component. -/
def portId? (graph : ComponentGraph) (port : ComponentPort) : Option PortId :=
  (graph.component? port.component).map fun component => ⟨component.name, port.port⟩

/-- The name of a connected link and both its ends, as full names with latencies in picoseconds. -/
def report? (graph : ComponentGraph) (link : Link) : Option (String × (PortId × Nat) × (PortId × Nat)) := do
  let (a, b) ← link.ends
  return (link.name, (← graph.portId? a.componentPort, a.latency.picoseconds.toNat),
    (← graph.portId? b.componentPort, b.latency.picoseconds.toNat))

end ComponentGraph

/-! ## Expected links -/

/-- The port of a core towards its private cache. -/
def clientPort (core : Core) (index : Nat) : PortId :=
  match core with
  | .program => ⟨"cpu" ++ toString index ++ ".memory.memIface", "port"⟩
  | .generator _ => ⟨"cpu" ++ toString index, "cache_link"⟩

/-- The links of one processing node: from the core to its cache, and from there to the bus. -/
def nodeLinks (core : Core) (index : Nat) : List (String × PortId × PortId) :=
  [("link_cpu_l1_" ++ toString index, clientPort core index,
      ⟨"l1_" ++ toString index, "high_network_0"⟩),
    ("link_l1_" ++ toString index ++ "_cpubus", ⟨"l1_" ++ toString index, "low_network_0"⟩,
      ⟨"cpubus", "high_network_" ++ toString index⟩)]

/-- The link from the router to a memory node. -/
def memoryNodeLink (node : Nat) : String × PortId × PortId :=
  ("link_dir_net_" ++ toString node, ⟨"local_network", "port" ++ toString (node + 1)⟩,
    ⟨"memory" ++ toString node ++ ".cpulink", "port"⟩)

/-- All links of a fabric with the ports that they connect. -/
def fabricLinks (core : Core) (processingNodes memoryNodes : Nat) : List (String × PortId × PortId) :=
  (List.range processingNodes).flatMap (nodeLinks core) ++
    [("link_cpubus_l2", ⟨"cpubus", "low_network_0"⟩, ⟨"l2cache.cpulink", "port"⟩),
      ("link_cache_net_0", ⟨"l2cache.memlink", "port"⟩, ⟨"local_network", "port0"⟩)] ++
    (List.range memoryNodes).map memoryNodeLink

namespace Wire

/-- The name of a link with its ports. -/
def named (core : Core) (wire : Wire) : String × PortId × PortId :=
  (wire.name, wire.a.id core, wire.b.id core)

theorem named_ofNode (workload : Core) (index : Nat) :
    (ofNode index).map (named workload) = nodeLinks workload index := by
  have client : (Site.client index).id workload = clientPort workload index := by
    cases workload with
    | program =>
        simp [Site.id, Site.part, Site.port, Core.cachePort, Part.name, ProcessingNode.nodeName,
          clientPort, String.append_assoc]
    | generator workload => rfl
  rw [nodeLinks, ← client]
  rfl

theorem named_memory (workload : Core) (node : Nat) :
    named workload (.memory node) = memoryNodeLink node := by
  simp [named, name, a, b, Site.id, Site.part, Site.port, Part.name, MemoryNode.nodeName,
    memoryNodeLink, PortName.single, routerName, String.append_assoc]

/-- **The wires are the expected links.** -/
theorem named_all (core : Core) (processingNodes memoryNodes : Nat) :
    (all processingNodes memoryNodes).map (named core) =
      fabricLinks core processingNodes memoryNodes := by
  have memory : named core ∘ Wire.memory = memoryNodeLink := funext (named_memory core)
  rw [all, List.map_append, List.map_append, List.map_flatMap, List.map_map, memory]
  simp only [named_ofNode]
  rfl

end Wire

/-! ## Reported links -/

namespace Partitioned

variable {settings : Settings} {partitioned : Partitioned} {latency : Latency}

/-- **The host knows every port by the name that the ledger has for it.** -/
theorem IsFor.portId? (isFor : partitioned.IsFor settings) {site : Site}
    (member : site.part (Core.ofSettings settings) ∈ (Layout.ofSettings settings).parts) :
    (partitioned.graph latency).portId? ((Layout.ofSettings settings).componentPort site) =
      some (site.id (Core.ofSettings settings)) := by
  obtain ⟨component, found, name⟩ := isFor.begins_all.component? member
  have found : (partitioned.graph latency).component?
      ((Layout.ofSettings settings).componentPort site).component = some component := by
    rw [graph_component?]
    exact found
  rw [ComponentGraph.portId?, found, Option.map_some, name]
  rfl

theorem part_mem_parts {wire : Wire} (member : wire ∈ (Layout.ofSettings settings).wires) {site : Site}
    (site_member : site ∈ wire.sites) :
    site.part (Core.ofSettings settings) ∈ (Layout.ofSettings settings).parts :=
  Layout.reaches_wires wire member site site_member

/-- **The host reports every wire as it is.** -/
theorem IsFor.report? (isFor : partitioned.IsFor settings) {wire : Wire}
    (member : wire ∈ (Layout.ofSettings settings).wires) :
    (partitioned.graph latency).report? ((Layout.ofSettings settings).joint latency wire).link =
      some (wire.name, (wire.a.id (Core.ofSettings settings), latency.picoseconds.toNat),
        (wire.b.id (Core.ofSettings settings), latency.picoseconds.toNat)) := by
  have a := @IsFor.portId? _ _ latency isFor wire.a (part_mem_parts member (by simp [Wire.sites]))
  have b := @IsFor.portId? _ _ latency isFor wire.b (part_mem_parts member (by simp [Wire.sites]))
  have unfolded : (partitioned.graph latency).report?
      ((Layout.ofSettings settings).joint latency wire).link = (do
        return (wire.name,
          (← (partitioned.graph latency).portId? ((Layout.ofSettings settings).componentPort wire.a),
            latency.picoseconds.toNat),
          (← (partitioned.graph latency).portId? ((Layout.ofSettings settings).componentPort wire.b),
            latency.picoseconds.toNat))) := rfl
  rw [unfolded, a, b]
  rfl

theorem IsFor.mem_bound_iff (isFor : partitioned.IsFor settings) {port : ComponentPort} :
    port ∈ (partitioned.graph latency).linkByPort.keys ↔
      ∃ wire ∈ (Layout.ofSettings settings).wires, ∃ site ∈ wire.sites,
        (Layout.ofSettings settings).componentPort site = port := by
  rw [SortedMap.mem_keys_iff, isFor.contains_port, ends, List.mem_map]
  constructor
  · rintro ⟨site, member, rfl⟩
    obtain ⟨wire, wire_member, site_member⟩ := List.mem_flatMap.1 member
    exact ⟨wire, wire_member, site, site_member, rfl⟩
  · rintro ⟨wire, wire_member, site, site_member, rfl⟩
    exact ⟨site, List.mem_flatMap.2 ⟨wire, wire_member, site_member⟩, rfl⟩

theorem length_expected :
    (Layout.ofSettings settings).expected.length =
      4 * settings.compute.processingNodes.toNat + 2 * settings.memory.nodes.toNat + 4 :=
  Layout.length_expected

theorem IsFor.boundCount (isFor : partitioned.IsFor settings) :
    (partitioned.graph latency).boundCount = (Layout.ofSettings settings).expected.length := by
  have size := SortedMap.size_eq_length isFor.ends_nodup fun port =>
    (@IsFor.contains_port _ _ latency isFor port).symm
  rw [ComponentGraph.boundCount, size, ends, List.length_map, Layout.expected_perm.length_eq, Layout.ports,
    List.length_map]

theorem IsFor.length_links (isFor : partitioned.IsFor settings) :
    2 * (partitioned.graph latency).links.size = (Layout.ofSettings settings).expected.length := by
  have links : (partitioned.graph latency).links = (partitioned.linkedGraph latency).links := rfl
  rw [links, graph_links, List.size_toArray, List.length_map, joints, List.length_map,
    isFor.settings_eq, Layout.expected_perm.length_eq, Layout.ports, List.length_map, Wire.length_sites]

/-- **The host and the ledger have the same ports.** -/
theorem IsFor.bound_iff_expected (isFor : partitioned.IsFor settings) {id : PortId} :
    id ∈ (Layout.ofSettings settings).expected ↔
      ∃ port ∈ (partitioned.graph latency).linkByPort.keys,
        (partitioned.graph latency).portId? port = some id := by
  rw [Layout.expected_perm.mem_iff, Layout.ports, List.mem_map]
  constructor
  · rintro ⟨site, member, rfl⟩
    obtain ⟨wire, wire_member, site_member⟩ := List.mem_flatMap.1 member
    exact ⟨_, isFor.mem_bound_iff.2 ⟨wire, wire_member, site, site_member, rfl⟩,
      isFor.portId? (part_mem_parts wire_member site_member)⟩
  · rintro ⟨port, bound, named⟩
    obtain ⟨wire, wire_member, site, site_member, rfl⟩ := isFor.mem_bound_iff.1 bound
    rw [isFor.portId? (part_mem_parts wire_member site_member)] at named
    exact ⟨site, List.mem_flatMap.2 ⟨wire, wire_member, site_member⟩, Option.some.inj named⟩

/-- Different bound ports have different names. -/
theorem IsFor.portId?_injective (isFor : partitioned.IsFor settings) {first second : ComponentPort}
    (first_bound : first ∈ (partitioned.graph latency).linkByPort.keys)
    (second_bound : second ∈ (partitioned.graph latency).linkByPort.keys)
    (same : (partitioned.graph latency).portId? first = (partitioned.graph latency).portId? second) :
    first = second := by
  obtain ⟨wire, wire_member, site, site_member, rfl⟩ := isFor.mem_bound_iff.1 first_bound
  obtain ⟨other, other_member, target, target_member, rfl⟩ := isFor.mem_bound_iff.1 second_bound
  rw [isFor.portId? (part_mem_parts wire_member site_member),
    isFor.portId? (part_mem_parts other_member target_member)] at same
  rw [Site.id_injective _ (Option.some.inj same)]

end Partitioned

/-! ## Built fabrics -/

theorem Latency.toNat_of_ofNanoseconds {nanoseconds : UInt64} {latency : Latency}
    (fits : ofNanoseconds nanoseconds = .ok latency) :
    latency.picoseconds.toNat = nanoseconds.toNat * 1000 := by
  rw [ofNanoseconds] at fits
  cases product : Word.mul nanoseconds 1000 with
  | error fault => rw [product] at fits; cases fits
  | ok picoseconds =>
      rw [product] at fits
      cases fits
      exact (Word.mul_eq_ok_iff.1 product).symm

namespace Topology

variable {settings : Settings} {tracker : Tracker} {topology : Topology} {recorder : Recorder}

/-- **A built fabric has exactly the expected links**, each once, connected at both ends, and with the
configured latency.  The ports that the host has bound are those that the ledger of the build was told to
expect, under the same names, and there are two for each link. -/
theorem buildFresh_links_exactly
    (built : buildFresh tracker settings = .ok (.ok topology, recorder)) :
    (recorder.graph.links.toList.map recorder.graph.report? =
        (fabricLinks (Core.ofSettings settings) settings.compute.processingNodes.toNat
          settings.memory.nodes.toNat).map fun link =>
            some (link.1, (link.2.1, settings.timing.linkLatency.toNat * 1000),
              (link.2.2, settings.timing.linkLatency.toNat * 1000))) ∧
      ((fabricLinks (Core.ofSettings settings) settings.compute.processingNodes.toNat
        settings.memory.nodes.toNat).map Prod.fst).Nodup ∧
      (∃ linked between, linkFresh tracker settings = .ok (.ok linked, between) ∧
        (linked.finish topology.entity).run.run Recorder.host between = (.ok topology, recorder) ∧
          ∀ id, id ∈ linked.ledger.ports ↔ ∃ port ∈ recorder.graph.linkByPort.keys,
            recorder.graph.portId? port = some id) ∧
      (∀ first ∈ recorder.graph.linkByPort.keys, ∀ second ∈ recorder.graph.linkByPort.keys,
        recorder.graph.portId? first = recorder.graph.portId? second → first = second) ∧
      topology.allocatedPorts = topology.connectedPorts ∧
      topology.connectedPorts = recorder.graph.boundCount ∧
      recorder.graph.boundCount = 2 * recorder.graph.links.size ∧
      2 * recorder.graph.links.size =
        4 * settings.compute.processingNodes.toNat + 2 * settings.memory.nodes.toNat + 4 := by
  obtain ⟨partitioned, latency, linked, between, made, fits, ⟨phases, linked_isOf⟩, finished, isOf,
    graph_eq⟩ := buildFresh_ok built
  have isFor := Partitioned.isFor_of_ofSettings made
  have links : recorder.graph.links.toList = (partitioned.joints latency).map Joint.link := by
    rw [graph_eq]
    exact congrArg Array.toList Partitioned.graph_links
  have named : (Layout.ofSettings settings).wires.map (Wire.named (Core.ofSettings settings)) =
      fabricLinks (Core.ofSettings settings) settings.compute.processingNodes.toNat
        settings.memory.nodes.toNat := Wire.named_all _ _ _
  refine ⟨?_, ?_, ⟨linked, between, phases, finished, fun id => ?_⟩, ?_, ?_, ?_, ?_, ?_⟩
  · rw [links, ← named, Partitioned.joints, isFor.settings_eq, List.map_map, List.map_map, List.map_map,
      ← Latency.toNat_of_ofNanoseconds fits, graph_eq]
    exact List.map_congr_left fun wire member => isFor.report? member
  · rw [← named, List.map_map]
    exact Wire.names_nodup
  · rw [graph_eq, ← isFor.bound_iff_expected, linked_isOf.records.mem_ports, isFor.settings_eq]
  · rw [graph_eq]
    exact fun first first_bound second second_bound =>
      isFor.portId?_injective first_bound second_bound
  · rw [isOf.allocated, isOf.connected]
  · rw [isOf.connected, graph_eq, isFor.boundCount, isFor.settings_eq]
  · rw [graph_eq, isFor.boundCount, isFor.length_links]
  · rw [graph_eq, isFor.length_links, Partitioned.length_expected]

/-- One core and one memory node have five links. -/
theorem default_links : ∃ topology recorder, buildFresh .silent {} = .ok (.ok topology, recorder) ∧
    2 * recorder.graph.links.size = 10 := by
  obtain ⟨_, _, topology, recorder, _, built, _⟩ := default_built
  exact ⟨topology, recorder, built, (buildFresh_links_exactly built).2.2.2.2.2.2.2⟩

/-- The bus, the shared cache and the router have four ports besides those of the nodes, so four for each core
and two for each memory node are not all. -/
theorem default_ports_more : ∃ topology recorder,
    buildFresh .silent {} = .ok (.ok topology, recorder) ∧
      topology.allocatedPorts ≠ 4 * ({} : Settings).compute.processingNodes.toNat +
        2 * ({} : Settings).memory.nodes.toNat := by
  obtain ⟨partitioned, _, topology, recorder, made, built, isOf, _⟩ := default_built
  refine ⟨topology, recorder, built, ?_⟩
  rw [isOf.allocated, (Partitioned.isFor_of_ofSettings made).settings_eq, Partitioned.length_expected]
  omega

end Topology

end MemoryFabric

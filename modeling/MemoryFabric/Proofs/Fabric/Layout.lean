import MemoryFabric.Proofs.Fabric.Wire
import MemoryFabric.Proofs.Fabric.WiringYields

/-!
# The layout of a fabric

A layout says which parts a fabric has and which wires.  It fixes the handle of every part, hence the two
ends of every wire.  As long as the components of a graph are the first parts of the layout, any wire
between them can be connected, as the next one in the order of the layout (`Layout.yields_connect`).
-/

namespace MemoryFabric

set_option autoImplicit false

/-- How large a fabric is, and what drives its cores. -/
structure Layout where
  core : Core
  processingNodes : Nat
  memoryNodes : Nat

namespace Layout

variable (layout : Layout)

/-- All parts in the order of their creation. -/
def parts : List Part := Part.all layout.core layout.processingNodes layout.memoryNodes

/-- The parts that are there before the router. -/
def nodeParts : List Part :=
  (List.range layout.processingNodes).flatMap (Part.ofNode layout.core) ++ Part.shared ++
    (List.range layout.memoryNodes).flatMap Part.ofMemoryNode

theorem parts_eq : layout.parts = layout.nodeParts ++ Part.ofRouter := rfl

/-- The handle of a part. -/
def handle (part : Part) : ComponentHandle :=
  ⟨part.position layout.core layout.processingNodes layout.memoryNodes⟩

/-- All wires in the order of their connection. -/
def wires : List Wire := Wire.all layout.processingNodes layout.memoryNodes

/-- The wires that are connected before there is a router. -/
def clusterWires : List Wire := (List.range layout.processingNodes).flatMap Wire.ofNode ++ [.bus]

theorem wires_eq :
    layout.wires = layout.clusterWires ++ .network :: (List.range layout.memoryNodes).map .memory := by
  simp [wires, Wire.all, clusterWires]

/-- The ports that wires end at. -/
def ports (wires : List Wire) : List PortId := (wires.flatMap Wire.sites).map (Site.id layout.core)

/-- The ports in the order in which a build expects them. -/
def expected : List PortId :=
  (Site.expected layout.processingNodes layout.memoryNodes).map (Site.id layout.core)

/-- The component and the name of a port. -/
def terminal (site : Site) : Terminal := ⟨layout.handle (site.part layout.core), site.id layout.core⟩

/-- The connected link of a wire. -/
def joint (latency : Latency) (wire : Wire) : Joint :=
  ⟨wire.name, (layout.terminal wire.a).linkEnd latency, (layout.terminal wire.b).linkEnd latency⟩

/-! ## Ports -/

variable {layout}

theorem ports_nodup {wires : List Wire} (distinct : wires.Nodup) : (layout.ports wires).Nodup :=
  (Wire.sites_nodup distinct).map (Site.id_injective layout.core)

/-- **A build expects the ports of its wires, each once.** -/
theorem expected_perm : layout.expected.Perm (layout.ports layout.wires) :=
  Site.expected_perm.map _

theorem expected_nodup : layout.expected.Nodup :=
  expected_perm.nodup_iff.2 (ports_nodup Wire.all_nodup)

theorem length_expected :
    layout.expected.length = 4 * layout.processingNodes + 2 * layout.memoryNodes + 4 := by
  rw [expected_perm.length_eq, ports, List.length_map, Wire.length_sites, wires, Wire.length_all]
  omega

/-! ## Components -/

/-- The components are the first parts of the layout. -/
structure Begins (layout : Layout) (parts : List Part) (components : List Component) : Prop where
  names : components.map Component.name = parts.map Part.name
  beginning : parts <+: layout.parts

section Components

variable {parts : List Part} {components : List Component}

/-- Parts that come first are at their positions. -/
theorem Begins.getElem?_handle (begins : layout.Begins parts components) {part : Part}
    (member : part ∈ parts) : parts[(layout.handle part).index]? = some part := by
  have ordered : parts.map (Part.position layout.core layout.processingNodes layout.memoryNodes) =
      List.range parts.length := by
    have first := begins.beginning.map
      (Part.position layout.core layout.processingNodes layout.memoryNodes)
    have inside := begins.beginning.length_le
    rw [Layout.parts, Part.length_all] at inside
    rw [Layout.parts, Part.positions_all] at first
    rw [List.prefix_iff_eq_take.1 first, List.length_map, List.take_range, Nat.min_eq_left inside]
  exact getElem?_of_map_eq_range ordered member

/-- **Every part is found under its handle.** -/
theorem Begins.component? (begins : layout.Begins parts components) {part : Part}
    (member : part ∈ parts) :
    ∃ component, (ComponentGraph.empty.pushAll components).component? (layout.handle part) =
      some component ∧ component.name = part.name := by
  have named : (components.map Component.name)[(layout.handle part).index]? = some part.name := by
    rw [begins.names, List.getElem?_map, begins.getElem?_handle member]
    rfl
  rw [List.getElem?_map] at named
  obtain ⟨component, found, name⟩ := Option.map_eq_some_iff.1 named
  exact ⟨component, ComponentGraph.component?_pushAll_empty.trans found, name⟩

theorem Begins.handle_injective (begins : layout.Begins parts components) {first second : Part}
    (first_member : first ∈ parts) (second_member : second ∈ parts)
    (same : layout.handle first = layout.handle second) : first = second := by
  have found := begins.getElem?_handle first_member
  rw [same, begins.getElem?_handle second_member] at found
  exact (Option.some.inj found).symm

theorem length_nodeParts : layout.nodeParts.length = (layout.handle .router).index := by
  have length := congrArg List.length layout.parts_eq
  rw [Layout.parts, Part.length_all, List.length_append] at length
  exact (Nat.add_right_cancel length).symm

theorem router_not_mem_nodeParts : Part.router ∉ layout.nodeParts := by
  have distinct : layout.parts.Nodup := Part.all_nodup
  rw [parts_eq] at distinct
  exact fun old => List.disjoint_of_nodup_append distinct old List.mem_cons_self

/-- Both parts of every wire are there. -/
def Reaches (layout : Layout) (parts : List Part) (wires : List Wire) : Prop :=
  ∀ wire ∈ wires, ∀ site ∈ wire.sites, site.part layout.core ∈ parts

theorem Reaches.mono {fewer more : List Wire} (reaches : layout.Reaches parts more)
    (subset : fewer ⊆ more) : layout.Reaches parts fewer :=
  fun wire member => reaches wire (subset member)

/-- **The parts of every wire are parts of the layout.** -/
theorem reaches_wires : layout.Reaches layout.parts layout.wires := by
  intro wire member site site_member
  obtain rfl := Wire.mem_sites_iff.1 site_member
  obtain ⟨core, processingNodes, memoryNodes⟩ := layout
  cases core <;> cases site <;>
    simp_all [wires, Wire.all, Wire.ofNode, Site.wire, Site.part, Layout.parts, Part.all, Part.ofNode,
      Part.shared, Part.ofMemoryNode, Part.ofRouter]

/-- The wires of the cluster do not need the router. -/
theorem reaches_clusterWires : layout.Reaches layout.nodeParts layout.clusterWires := by
  intro wire member site site_member
  have inside : wire ∈ layout.wires := by
    rw [wires_eq]
    exact List.mem_append_left _ member
  have part := reaches_wires wire inside site site_member
  rw [parts_eq, List.mem_append] at part
  refine part.resolve_right fun router => ?_
  obtain rfl := Wire.mem_sites_iff.1 site_member
  obtain ⟨core, processingNodes, memoryNodes⟩ := layout
  cases core <;> cases site <;> simp [clusterWires, Wire.ofNode, Site.wire] at member <;>
    simp [Site.part, Part.ofRouter] at router

/-- The port of a site as the host knows it. -/
def componentPort (layout : Layout) (site : Site) : ComponentPort :=
  ⟨layout.handle (site.part layout.core), site.port layout.core⟩

theorem joint_ports {latency : Latency} {wire : Wire} :
    (layout.joint latency wire).ports = wire.sites.map layout.componentPort := rfl

theorem flatMap_joint_ports {latency : Latency} {wires : List Wire} :
    (wires.map (layout.joint latency)).flatMap Joint.ports =
      (wires.flatMap Wire.sites).map layout.componentPort := by
  simp only [List.flatMap_map, List.map_flatMap, joint_ports]

/-- The host tells ports apart as the ledger does. -/
theorem Begins.componentPort_injective (begins : layout.Begins parts components) {first second : Site}
    (first_member : first.part layout.core ∈ parts) (second_member : second.part layout.core ∈ parts)
    (same : layout.componentPort first = layout.componentPort second) : first = second := by
  refine Site.id_injective layout.core ?_
  have handles := congrArg ComponentPort.component same
  have ports : first.port layout.core = second.port layout.core := congrArg ComponentPort.port same
  rw [Site.id, Site.id, begins.handle_injective first_member second_member handles, ports]

theorem Begins.componentPorts_nodup (begins : layout.Begins parts components) {wires : List Wire}
    (distinct : wires.Nodup) (reaches : layout.Reaches parts wires) :
    ((wires.flatMap Wire.sites).map layout.componentPort).Nodup := by
  refine (Wire.sites_nodup distinct).map_on fun first first_member second second_member same => ?_
  obtain ⟨wire, wire_member, first_end⟩ := List.mem_flatMap.1 first_member
  obtain ⟨other, other_member, second_end⟩ := List.mem_flatMap.1 second_member
  exact begins.componentPort_injective (reaches wire wire_member first first_end)
    (reaches other other_member second second_end) same

end Components

/-! ## Wiring -/

/-- The wires that have been connected are in the ledger and in the graph. -/
structure Wired (layout : Layout) (latency : Latency) (components : List Component)
    (done : List Wire) (ledger : WiringLedger) (graph : ComponentGraph) : Prop where
  records : ledger.Records layout.expected (layout.ports done)
  graph_eq : graph =
    (ComponentGraph.empty.pushAll components).joinAll (done.map (layout.joint latency))

section Wiring

variable {latency : Latency} {parts : List Part} {components : List Component} {done rest : List Wire}
  {wire : Wire} {ledger : WiringLedger} {before : ComponentGraph}

theorem Wired.opened (wired : layout.Wired latency components done ledger before) :
    before.isFinalized = false := by
  rw [wired.graph_eq, ComponentGraph.joinAll_isFinalized, ComponentGraph.pushAll_isFinalized]
  rfl

/-- Connecting wires leaves the components where they are. -/
theorem Wired.component? (wired : layout.Wired latency components done ledger before)
    (begins : layout.Begins parts components) {part : Part} (member : part ∈ parts) :
    ∃ component, before.component? (layout.handle part) = some component ∧
      component.name = part.name := by
  obtain ⟨component, found, name⟩ := begins.component? member
  refine ⟨component, ?_, name⟩
  rw [wired.graph_eq, ComponentGraph.component?, ComponentGraph.joinAll_components]
  exact found

theorem Wired.fresh (wired : layout.Wired latency components done ledger before)
    (new : wire ∉ done) : before.linkByName.contains wire.name = false := by
  rw [wired.graph_eq, ComponentGraph.contains_link_joinAll, ComponentGraph.pushAll_linkByName,
    List.map_map, decide_eq_false]
  · rfl
  · exact fun old => new ((List.mem_map_of_injective Wire.name_injective).1 old)

theorem Wired.free (wired : layout.Wired latency components done ledger before) {site : Site}
    (new : layout.componentPort site ∉ (done.flatMap Wire.sites).map layout.componentPort) :
    before.linkByPort.contains (layout.componentPort site) = false := by
  rw [wired.graph_eq, ComponentGraph.contains_port_joinAll, flatMap_joint_ports,
    ComponentGraph.pushAll_linkByPort, decide_eq_false new]
  rfl

theorem id_mem_expected {site : Site} (member : site.wire ∈ layout.wires) :
    site.id layout.core ∈ layout.expected := by
  refine expected_perm.mem_iff.2 (List.mem_map_of_mem ?_)
  exact List.mem_flatMap.2 ⟨site.wire, member, Wire.mem_sites_iff.2 rfl⟩

/-- **The next wire can be connected.** -/
theorem yields_connect (wire : Wire) (begins : layout.Begins parts components)
    (wired : layout.Wired latency components done ledger before)
    (order : done ++ wire :: rest = layout.wires) (reaches : layout.Reaches parts (done ++ [wire])) :
    (Wiring.connect wire.name (layout.terminal wire.a) (layout.terminal wire.b) latency).Yields 0 ledger
      before fun _ after graph => layout.Wired latency components (done ++ [wire]) after graph := by
  have all : layout.wires.Nodup := Wire.all_nodup
  have member : wire ∈ layout.wires := by
    rw [← order]
    simp
  rw [← order, List.append_cons] at all
  have distinct : (done ++ [wire]).Nodup := all.of_append_left
  have new : wire ∉ done := fun old =>
    List.disjoint_of_nodup_append distinct old (List.mem_singleton.2 rfl)
  have ids : layout.ports (done ++ [wire]) =
      layout.ports done ++ [(layout.terminal wire.a).id, (layout.terminal wire.b).id] := by
    simp [ports, Wire.sites, terminal]
  -- The host compares handles where the ledger compares names.
  have componentPorts := begins.componentPorts_nodup distinct reaches
  rw [List.flatMap_append, List.map_append, List.flatMap_singleton] at componentPorts
  have free : ∀ site ∈ wire.sites,
      before.linkByPort.contains (layout.componentPort site) = false := fun site site_member =>
    wired.free fun old =>
      List.disjoint_of_nodup_append componentPorts old (List.mem_map_of_mem site_member)
  have different : layout.componentPort wire.a ≠ layout.componentPort wire.b := by
    have pair := (List.nodup_append.1 componentPorts).2.1
    simpa [Wire.sites] using pair
  have ends : wire.a ∈ wire.sites ∧ wire.b ∈ wire.sites := by simp [Wire.sites]
  obtain ⟨first, a_found, _⟩ := wired.component? begins (reaches wire (by simp) wire.a ends.1)
  obtain ⟨second, b_found, _⟩ := wired.component? begins (reaches wire (by simp) wire.b ends.2)
  have known : ∀ port ∈ [(layout.terminal wire.a).id, (layout.terminal wire.b).id],
      port ∈ layout.expected := by
    intro port port_member
    obtain ⟨site, site_member, rfl⟩ := List.mem_map.1
      (show port ∈ wire.sites.map (Site.id layout.core) from port_member)
    exact id_mem_expected ((Wire.mem_sites_iff.1 site_member).symm ▸ member)
  refine (@Wiring.yields_connect _ _ _ _ wire.name (layout.terminal wire.a) (layout.terminal wire.b)
    latency first second wired.opened (wired.fresh new) a_found b_found different (free wire.a ends.1)
      (free wire.b ends.2) wired.records known (ids ▸ ports_nodup distinct)).weaken (Nat.le_refl 0) ?_
  rintro _ after _ ⟨records, rfl⟩
  refine ⟨ids ▸ records, ?_⟩
  rw [wired.graph_eq, List.map_append, ComponentGraph.joinAll_append]
  rfl

end Wiring

end Layout

end MemoryFabric

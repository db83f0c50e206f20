import MemoryFabric.Proofs.Fabric.ClusterCreation
import MemoryFabric.Proofs.Fabric.Layout
import MemoryFabric.Proofs.Fabric.MemoryNodeCreation

/-!
# The links of a fabric

Linking expects every port of the layout, connects the wires one after another, and creates the router in
between.  On a graph with the nodes of a fabric every step succeeds, so in the end the ledger is complete
and the graph has exactly the links of the layout (`Populated.yields_wire`).
-/

namespace MemoryFabric

set_option autoImplicit false

namespace Layout

variable {layout : Layout} {parts : List Part} {components : List Component}

/-- Parts of the layout are found in the graph, with their names. -/
def Shows (layout : Layout) (parts : List Part) (graph : ComponentGraph) : Prop :=
  ∀ part ∈ parts, ∃ component,
    graph.component? (layout.handle part) = some component ∧ component.name = part.name

theorem Begins.shows (begins : layout.Begins parts components) :
    layout.Shows parts (ComponentGraph.empty.pushAll components) :=
  fun _ member => begins.component? member

theorem Wired.shows {latency : Latency} {done : List Wire} {ledger : WiringLedger}
    {before : ComponentGraph} (wired : layout.Wired latency components done ledger before)
    (begins : layout.Begins parts components) : layout.Shows parts before :=
  fun _ member => wired.component? begins member

/-- Components that are created between two wires are as good as created before. -/
theorem Wired.pushAll {latency : Latency} {done : List Wire} {ledger : WiringLedger}
    {before : ComponentGraph} (more : List Component)
    (wired : layout.Wired latency components done ledger before) :
    layout.Wired latency (components ++ more) done ledger (before.pushAll more) := by
  refine ⟨wired.records, ?_⟩
  rw [wired.graph_eq, ComponentGraph.pushAll_joinAll, ComponentGraph.pushAll_append]

/-- The ports of the router. -/
def routerPorts (layout : Layout) : RouterPorts :=
  ⟨routerPort routerName 0, (List.range layout.memoryNodes).map fun node => routerPort routerName (node + 1)⟩

theorem routerPorts_toList :
    layout.routerPorts.toList =
      (Site.uplink :: (List.range layout.memoryNodes).map Site.downlink).map (Site.id layout.core) := by
  rw [List.map_cons, List.map_map]
  rfl

/-- The port of a part that the graph shows. -/
theorem Shows.yields_portOf {before : ComponentGraph} (shows : layout.Shows parts before) {site : Site}
    (member : site.part layout.core ∈ parts) :
    (Build.portOf (layout.terminal site).component (site.port layout.core)).Yields 0 before
      fun port after => port = (layout.terminal site).id ∧ after = before := by
  obtain ⟨component, found, name⟩ := shows _ member
  refine (Build.yields_portOf _ found).weaken (Nat.le_refl 0) ?_
  rintro _ _ ⟨rfl, rfl⟩
  rw [name]
  exact ⟨rfl, rfl⟩

end Layout

/-! ## Processing nodes -/

namespace ProcessingNode

variable {layout : Layout} {index : Nat} {node : ProcessingNode}

theorem IsLocated.client (located : node.IsLocated layout.core index) :
    node.client = (layout.terminal (.client index)).component ∧
      node.core.cachePort = (Site.client index).port layout.core := by
  obtain ⟨entity, rfl⟩ := located
  obtain ⟨core, processingNodes, memoryNodes⟩ := layout
  cases core <;> exact ⟨rfl, rfl⟩

section Wiring

variable {latency : Latency} {parts : List Part} {components : List Component}
  {done rest : List Wire} {ledger : WiringLedger} {before : ComponentGraph}

/-- A core is connected to its cache. -/
theorem yields_wire (begins : layout.Begins parts components)
    (located : node.IsLocated layout.core index)
    (wired : layout.Wired latency components done ledger before)
    (order : done ++ .core index :: rest = layout.wires)
    (reaches : layout.Reaches parts (done ++ [.core index])) :
    (node.wire latency).Yields 0 ledger before fun _ after graph =>
      layout.Wired latency components (done ++ [.core index]) after graph := by
  obtain ⟨client, port⟩ := located.client
  have member : (Site.client index).part layout.core ∈ parts :=
    reaches (.core index) (by simp) _ (by simp [Wire.sites, Wire.a])
  have clientPort : node.clientPort.Yields 0 before fun port after =>
      port = (layout.terminal (.client index)).id ∧ after = before := by
    rw [ProcessingNode.clientPort, client, port]
    exact (wired.shows begins).yields_portOf member
  refine (Wiring.Yields.ofBuild clientPort).bind (Nat.le_refl 0) ?_
  rintro _ ledger before ⟨rfl, rfl, rfl⟩
  rw [client]
  obtain ⟨entity, rfl⟩ := located
  exact Layout.yields_connect (.core index) begins wired order reaches

end Wiring

end ProcessingNode

namespace Cluster

section Expected

variable {layout : Layout} {parts : List Part} {before : ComponentGraph}

/-- **The expected ports of processing nodes are those of the layout.** -/
theorem yields_nodePorts (shows : layout.Shows parts before) {nodes : List ProcessingNode}
    {indices : List Nat} (located : List.Forall₂ (fun index node =>
      node.IsLocated layout.core index) indices nodes)
    (members : ∀ index ∈ indices, (Site.client index).part layout.core ∈ parts) :
    (nodePorts nodes).Yields 0 before fun ports after =>
      ports = (indices.flatMap Site.ofNode).map (Site.id layout.core) ∧ after = before := by
  induction located with
  | nil => exact Build.Yields.pure _ _ _
  | @cons index node indices nodes first located ih =>
      have client : node.clientPort.Yields 0 before fun port after =>
          port = (Site.client index).id layout.core ∧ after = before := by
        rw [ProcessingNode.clientPort, first.client.1, first.client.2]
        exact shows.yields_portOf (members index List.mem_cons_self)
      obtain ⟨entity, rfl⟩ := first
      refine client.bind (Nat.le_refl 0) ?_
      rintro _ before ⟨rfl, rfl⟩
      refine (ih fun index member => members index (List.mem_cons_of_mem _ member)).bind
        (Nat.le_refl 0) ?_
      rintro _ before ⟨rfl, rfl⟩
      exact Build.Yields.pure _ _ _

variable {cluster : Cluster}

theorem yields_expectedPorts (shows : layout.Shows parts before)
    (located : cluster.IsLocated layout.core layout.processingNodes)
    (clients : ∀ index < layout.processingNodes, (Site.client index).part layout.core ∈ parts)
    (link : Part.memoryLink ∈ parts) :
    cluster.expectedPorts.Yields 0 before fun ports after =>
      ports = ((List.range layout.processingNodes).flatMap Site.ofNode ++
        (List.range layout.processingNodes).map Site.busAbove ++
          [Site.busBelow, Site.memoryLink]).map (Site.id layout.core) ∧ after = before := by
  refine (yields_nodePorts shows located.nodes fun index member =>
    clients index (List.mem_range.1 member)).bind (Nat.le_refl 0) ?_
  rintro _ before ⟨rfl, rfl⟩
  have port : cluster.cachePort.Yields 0 before fun port after =>
      port = Site.memoryLink.id layout.core ∧ after = before := by
    rw [cachePort, located.memoryLink]
    exact @Layout.Shows.yields_portOf layout parts before shows .memoryLink link
  refine port.bind (Nat.le_refl 0) ?_
  rintro _ before ⟨rfl, rfl⟩
  refine (Build.Yields.pure _ _ _).weaken (Nat.le_refl 0) ?_
  rintro _ _ ⟨rfl, rfl⟩
  rw [located.busPorts, List.map_append, List.map_append, List.map_map]
  exact ⟨rfl, rfl⟩

end Expected

section Wiring

variable {layout : Layout} {latency : Latency} {parts : List Part} {components : List Component}
  {done rest : List Wire} {ledger : WiringLedger} {before : ComponentGraph}

/-- **Processing nodes are connected to their caches, and the caches to the bus.** -/
theorem yields_wireNodes (begins : layout.Begins parts components) {nodes : List ProcessingNode}
    {indices : List Nat} (located : List.Forall₂ (fun index node =>
      node.IsLocated layout.core index) indices nodes)
    (wired : layout.Wired latency components done ledger before)
    (order : done ++ (indices.flatMap Wire.ofNode ++ rest) = layout.wires)
    (reaches : layout.Reaches parts (done ++ indices.flatMap Wire.ofNode)) :
    (wireNodes (layout.handle .bus) latency (nodes.zip (indices.map (busPort busName)))).Yields 0 ledger
      before fun _ after graph =>
        layout.Wired latency components (done ++ indices.flatMap Wire.ofNode) after graph := by
  induction located generalizing done ledger before with
  | nil =>
      refine (Wiring.Yields.pure _ _ _ _).weaken (Nat.le_refl 0) ?_
      rintro _ _ _ ⟨rfl, rfl, rfl⟩
      rw [List.flatMap_nil, List.append_nil]
      exact wired
  | @cons index node indices nodes first located ih =>
      rw [List.flatMap_cons, List.append_assoc] at order
      rw [List.flatMap_cons, ← List.append_assoc] at reaches ⊢
      have split : done ++ Wire.ofNode index = done ++ [.core index] ++ [.cache index] := by
        rw [List.append_assoc]
        rfl
      rw [split] at reaches ⊢
      refine (ProcessingNode.yields_wire begins first wired order (reaches.mono (by simp))).bind
        (Nat.le_refl 0) ?_
      intro _ ledger before wired
      obtain ⟨entity, rfl⟩ := first
      refine (Layout.yields_connect (.cache index) begins wired
        ((List.append_assoc _ _ _).trans order) (reaches.mono (by simp))).bind (Nat.le_refl 0) ?_
      intro _ ledger before wired
      refine ih wired ?_ reaches
      rw [← order, List.append_assoc, List.append_assoc]
      rfl

/-- **Everything inside the cluster can be connected.** -/
theorem yields_wire {cluster : Cluster}
    (located : cluster.IsLocated layout.core layout.processingNodes)
    (begins : layout.Begins layout.nodeParts components)
    (wired : layout.Wired latency components [] ledger before) :
    (cluster.wire latency).Yields 0 ledger before fun _ after graph =>
      layout.Wired latency components layout.clusterWires after graph := by
  have reaches : layout.Reaches layout.nodeParts
      ([] ++ (List.range layout.processingNodes).flatMap Wire.ofNode ++ [.bus]) :=
    Layout.reaches_clusterWires
  have order : [] ++ ((List.range layout.processingNodes).flatMap Wire.ofNode ++
      (.bus :: .network :: (List.range layout.memoryNodes).map .memory)) = layout.wires := by
    rw [Layout.wires_eq, Layout.clusterWires]
    simp
  have nodes := yields_wireNodes begins located.nodes wired order (reaches.mono (by simp))
  have bus : cluster.bus = layout.handle .bus := located.bus
  rw [wire, bus, located.busPorts]
  refine nodes.bind (Nat.le_refl 0) ?_
  intro _ ledger before wired
  have port : cluster.cachePort.Yields 0 before fun port after =>
      port = (layout.terminal .memoryLink).id ∧ after = before := by
    rw [cachePort, located.memoryLink]
    exact @Layout.Shows.yields_portOf _ _ _ (wired.shows begins) .memoryLink
      (reaches .bus (by simp) _ (by simp [Wire.sites, Wire.b]))
  refine (Wiring.Yields.ofBuild port).bind (Nat.le_refl 0) ?_
  rintro _ ledger before ⟨rfl, rfl, rfl⟩
  have link : cluster.memoryLink = (layout.terminal .memoryLink).component := located.memoryLink
  rw [link]
  exact Layout.yields_connect .bus begins wired order reaches

end Wiring

end Cluster

/-! ## Memory nodes and the router -/

namespace Populated

/-- The nodes are those of a fabric with this layout. -/
structure IsLocated (layout : Layout) (populated : Populated) : Prop where
  cluster : populated.cluster.IsLocated layout.core layout.processingNodes
  numbered : populated.descriptors.map NodeDescriptor.node = List.range layout.memoryNodes
  memoryNodes : List.Forall₂
    (MemoryNode.IsLocated (Part.width layout.core * layout.processingNodes + 4))
    populated.descriptors populated.memoryNodes

variable {layout : Layout} {populated : Populated}

theorem IsLocated.length_memoryNodes (located : populated.IsLocated layout) :
    populated.memoryNodes.length = layout.memoryNodes := by
  rw [← located.memoryNodes.length_eq, ← List.length_map NodeDescriptor.node, located.numbered,
    List.length_range]

/-- The components of the router, the first of which gets the number `base`. -/
def routerComponents (settings : Settings) (ports base : Nat) : List Component :=
  [((Component.bare Part.router.name Kind.router none).extend (Table.router settings ports)).fill
      "topology" ⟨base + 1⟩,
    Component.bare Part.routerTopology.name Table.routerTopology (some (⟨base⟩, "topology"))]

/-- With the router all parts are there. -/
theorem begins_withRouter {components : List Component}
    (begins : layout.Begins layout.nodeParts components) (settings : Settings) (ports base : Nat) :
    layout.Begins layout.parts (components ++ routerComponents settings ports base) := by
  refine ⟨?_, List.prefix_rfl⟩
  rw [List.map_append, begins.names, Layout.parts_eq, List.map_append]
  rfl

section Router

variable {latency : Latency} {components : List Component} {done rest : List Wire}
  {ledger : WiringLedger} {before : ComponentGraph}

/-- **The router can be created in every open graph in which its name is free.** -/
theorem yields_createRouter (settings : Settings) (ports : RouterPorts)
    (opened : before.isFinalized = false)
    (free : before.componentByName.contains Part.router.name = false) :
    (createRouter settings ports).Yields 2 before fun router after =>
      router = ⟨before.components.size⟩ ∧
        after = before.pushAll (routerComponents settings ports.count before.components.size) := by
  refine (@Build.yields_createWith before [] _ _ _ opened (by decide) (Part.name_ne_empty .router)
    List.not_mem_nil free).bind (by decide) ?_
  rintro _ _ ⟨rfl, rfl⟩
  refine (Build.yields_attachSubcomponent (ComponentGraph.attachSubcomponent_pushAll 0 opened
    (by decide) (by decide) rfl rfl)).bind (by decide) ?_
  rintro _ _ ⟨rfl, rfl⟩
  refine (Build.Yields.pure _ _ _).weaken (Nat.le_refl _) ?_
  rintro _ _ ⟨rfl, rfl⟩
  exact ⟨rfl, rfl⟩

/-- **Memory nodes are connected to the ports of the router.** -/
theorem yields_wireMemoryNodes (begins : layout.Begins layout.parts components)
    {descriptors : List NodeDescriptor} {nodes : List MemoryNode}
    (located : List.Forall₂
      (MemoryNode.IsLocated (Part.width layout.core * layout.processingNodes + 4)) descriptors nodes)
    (wired : layout.Wired latency components done ledger before)
    (order : done ++ (descriptors.map NodeDescriptor.node).map .memory = layout.wires) :
    (wireMemoryNodes (layout.handle .router) latency
      (nodes.zip ((descriptors.map NodeDescriptor.node).map fun node =>
        routerPort routerName (node + 1)))).Yields 0 ledger before fun _ after graph =>
          layout.Wired latency components layout.wires after graph := by
  induction located generalizing done ledger before with
  | nil =>
      refine (Wiring.Yields.pure _ _ _ _).weaken (Nat.le_refl 0) ?_
      rintro _ _ _ ⟨rfl, rfl, rfl⟩
      rw [← order, List.map_nil, List.map_nil, List.append_nil]
      exact wired
  | @cons descriptor node descriptors nodes first located ih =>
      obtain ⟨entity, rfl⟩ := first
      refine (Layout.yields_connect (.memory descriptor.node) begins wired order
        (Layout.reaches_wires.mono ?_)).bind (Nat.le_refl 0) ?_
      · rw [← order]
        exact List.append_subset.2 ⟨List.subset_append_left _ _, by simp⟩
      · intro _ ledger before wired
        refine ih wired ?_
        rw [List.append_assoc]
        exact order

theorem IsLocated.uplinks (located : populated.IsLocated layout) :
    populated.memoryNodes.map MemoryNode.uplink =
      ((List.range layout.memoryNodes).map .memoryInterface).map (Site.id layout.core) := by
  rw [← located.numbered, List.map_map, List.map_map]
  have nodes := located.memoryNodes
  generalize populated.descriptors = descriptors, populated.memoryNodes = memoryNodes at nodes
  induction nodes with
  | nil => rfl
  | cons first rest ih =>
      obtain ⟨entity, rfl⟩ := first
      exact congrArg (_ :: ·) ih

/-- **Every port of the layout is expected, and nothing else.** -/
theorem yields_expectPorts (located : populated.IsLocated layout)
    (begins : layout.Begins layout.nodeParts components) :
    (populated.expectPorts layout.routerPorts).Yields 0 .empty
      (ComponentGraph.empty.pushAll components) fun _ after graph =>
        after.Records layout.expected [] ∧ graph = ComponentGraph.empty.pushAll components := by
  have clients : ∀ index < layout.processingNodes,
      (Site.client index).part layout.core ∈ layout.nodeParts := by
    intro index below
    refine Layout.reaches_clusterWires (.core index) ?_ _ (by simp [Wire.sites, Wire.a])
    exact List.mem_append_left _ (List.mem_flatMap.2 ⟨index, List.mem_range.2 below, by simp [Wire.ofNode]⟩)
  have link : Part.memoryLink ∈ layout.nodeParts :=
    Layout.reaches_clusterWires .bus (by simp [Layout.clusterWires]) .memoryLink
      (by simp [Wire.sites, Wire.b])
  generalize graph_eq : ComponentGraph.empty.pushAll components = graph
  have shows : layout.Shows layout.nodeParts graph := graph_eq ▸ begins.shows
  have distinct : layout.expected.Nodup := Layout.expected_nodup
  have split : layout.expected =
      ((List.range layout.processingNodes).flatMap Site.ofNode ++
        (List.range layout.processingNodes).map Site.busAbove ++
          [Site.busBelow, Site.memoryLink]).map (Site.id layout.core) ++
        [populated.cluster.uplink] ++ layout.routerPorts.toList ++
          populated.memoryNodes.map MemoryNode.uplink := by
    rw [located.uplinks, located.cluster.uplink, Layout.routerPorts_toList, Layout.expected,
      Site.expected, List.map_append, List.map_append, List.map_append]
    rfl
  rw [split] at distinct ⊢
  refine (Wiring.Yields.ofBuild (Cluster.yields_expectedPorts shows located.cluster clients link)).bind
    (Nat.le_refl 0) ?_
  rintro _ ledger _ ⟨rfl, rfl, rfl⟩
  refine (Wiring.yields_expectAll WiringLedger.records_empty
    distinct.of_append_left.of_append_left.of_append_left).bind (Nat.le_refl 0) ?_
  rintro _ ledger _ ⟨records, rfl⟩
  refine (Wiring.yields_expect records ?_).bind (Nat.le_refl 0) ?_
  · exact fun old => List.disjoint_of_nodup_append distinct.of_append_left.of_append_left old
      List.mem_cons_self
  rintro _ ledger _ ⟨records, rfl⟩
  refine (Wiring.yields_expectAll records distinct.of_append_left).bind (Nat.le_refl 0) ?_
  rintro _ ledger _ ⟨records, rfl⟩
  exact Wiring.yields_expectAll records distinct

/-- **A fabric with all of its nodes can be linked.** -/
theorem yields_wire (located : populated.IsLocated layout)
    (begins : layout.Begins layout.nodeParts components) :
    (populated.wire layout.routerPorts latency).Yields 2 .empty
      (ComponentGraph.empty.pushAll components) fun router after graph =>
        router = layout.handle .router ∧
          layout.Wired latency (components ++ routerComponents populated.settings
            layout.routerPorts.count components.length) layout.wires after graph := by
  refine (yields_expectPorts located begins).bind (Nat.zero_le _) ?_
  rintro _ ledger _ ⟨records, rfl⟩
  refine (Cluster.yields_wire located.cluster begins ⟨records, rfl⟩).bind (Nat.zero_le _) ?_
  intro _ ledger before wired
  have free : before.componentByName.contains Part.router.name = false := by
    rw [wired.graph_eq, ComponentGraph.joinAll_componentByName, ComponentGraph.contains_pushAll,
      begins.names, decide_eq_false (Part.name_not_mem Layout.router_not_mem_nodeParts)]
    rfl
  have length : components.length = (layout.handle .router).index := by
    rw [← List.length_map Component.name, begins.names, List.length_map, Layout.length_nodeParts]
  have size : before.components.size = components.length := by
    rw [wired.graph_eq, ComponentGraph.joinAll_components, ComponentGraph.pushAll_size]
    exact Nat.zero_add _
  refine (Wiring.Yields.ofBuild (yields_createRouter populated.settings layout.routerPorts wired.opened
    free)).bind (by decide) ?_
  rintro _ ledger _ ⟨rfl, rfl, rfl⟩
  have wired := wired.pushAll (routerComponents populated.settings layout.routerPorts.count
    before.components.size)
  rw [size] at wired ⊢
  have all := begins_withRouter begins populated.settings layout.routerPorts.count components.length
  have router : (⟨components.length⟩ : ComponentHandle) = layout.handle .router := by rw [length]
  have interface : populated.cluster.interface = layout.handle .cacheInterface :=
    located.cluster.interface
  rw [router, interface, located.cluster.uplink]
  refine (Layout.yields_connect .network all wired layout.wires_eq.symm
    (Layout.reaches_wires.mono ?_)).bind (Nat.zero_le _) ?_
  · rw [Layout.wires_eq]
    exact List.append_subset.2 ⟨List.subset_append_left _ _, by simp⟩
  intro _ ledger before wired
  have ports : layout.routerPorts.memory =
      (populated.descriptors.map NodeDescriptor.node).map fun node =>
        routerPort routerName (node + 1) := by
    rw [located.numbered]
    rfl
  have order : layout.clusterWires ++ [.network] ++
      (populated.descriptors.map NodeDescriptor.node).map .memory = layout.wires := by
    rw [located.numbered, Layout.wires_eq, List.append_assoc]
    rfl
  rw [ports]
  refine (yields_wireMemoryNodes all located.memoryNodes wired order).bind (Nat.zero_le _) ?_
  intro _ ledger before wired
  refine (Wiring.yields_verify wired.records fun port known =>
    Layout.expected_perm.mem_iff.1 known).bind (Nat.zero_le _) ?_
  rintro _ ledger before ⟨rfl, rfl⟩
  refine (Wiring.Yields.pure _ _ _ _).weaken (Nat.le_refl _) ?_
  rintro _ _ _ ⟨rfl, rfl, rfl⟩
  exact ⟨rfl, wired⟩

end Router

end Populated

end MemoryFabric

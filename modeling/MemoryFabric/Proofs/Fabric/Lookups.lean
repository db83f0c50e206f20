import MemoryFabric.Proofs.Fabric.Phases

/-!
# Looking things up in a fabric

The graph of a fabric finds every part of the layout by its name, under its handle, with the parameters that
it was created with, and every wire by its name and by both its ends.
-/

namespace MemoryFabric.Partitioned

set_option autoImplicit false

variable {settings : Settings} {partitioned : Partitioned} {latency : Latency}

/-! ## Components -/

theorem graph_component? {handle : ComponentHandle} :
    (partitioned.graph latency).component? handle =
      (ComponentGraph.empty.pushAll partitioned.components).component? handle := by
  have same : (partitioned.graph latency).components =
      (ComponentGraph.empty.pushAll partitioned.components).components :=
    ComponentGraph.joinAll_components
  rw [ComponentGraph.component?, same, ComponentGraph.component?]

/-- The component of a handle is the one at its position. -/
theorem graph_getElem? {handle : ComponentHandle} :
    (partitioned.graph latency).component? handle = partitioned.components[handle.index]? :=
  graph_component?.trans ComponentGraph.component?_pushAll_empty

theorem IsFor.names_nodup (isFor : partitioned.IsFor settings) :
    (partitioned.components.map Component.name).Nodup := by
  rw [isFor.begins_all.names]
  exact Part.names_nodup

theorem graph_find? {name : String} :
    (partitioned.graph latency).find? name =
      (ComponentGraph.empty.pushAll partitioned.components).find? name := by
  have same : (partitioned.graph latency).componentByName =
      (ComponentGraph.empty.pushAll partitioned.components).componentByName :=
    ComponentGraph.joinAll_componentByName
  rw [ComponentGraph.find?, same, ComponentGraph.find?]

/-- **Every component is found by its name.** -/
theorem IsFor.find?_of_component? (isFor : partitioned.IsFor settings) {handle : ComponentHandle}
    {component : Component} (found : (partitioned.graph latency).component? handle = some component) :
    (partitioned.graph latency).find? component.name = some handle := by
  rw [graph_find?]
  exact ComponentGraph.find?_pushAll_empty isFor.names_nodup (graph_getElem?.symm.trans found)

/-- Every part is found under its handle. -/
theorem IsFor.find?_part (isFor : partitioned.IsFor settings) {part : Part}
    (member : part ∈ (Layout.ofSettings settings).parts) :
    (partitioned.graph latency).find? part.name = some ((Layout.ofSettings settings).handle part) := by
  obtain ⟨component, found, name⟩ := isFor.begins_all.component? member
  rw [← name]
  exact isFor.find?_of_component? (graph_component?.trans found)

/-- Nothing but the parts is found. -/
theorem IsFor.part_of_find? (isFor : partitioned.IsFor settings) {part : Part} {handle : ComponentHandle}
    (found : (partitioned.graph latency).find? part.name = some handle) :
    part ∈ (Layout.ofSettings settings).parts := by
  have known : (ComponentGraph.empty.pushAll partitioned.components).componentByName.contains part.name =
      true := by
    rw [SortedMap.contains, ← ComponentGraph.find?, ← graph_find?, found]
    rfl
  rw [ComponentGraph.contains_pushAll, isFor.begins_all.names, Bool.or_eq_true,
    decide_eq_true_iff] at known
  rcases known with named | old
  · exact (List.mem_map_of_injective Part.name_injective).1 named
  · cases old

/-- The parameters of a component are recorded under its name. -/
theorem IsFor.parameters?_of_mem (isFor : partitioned.IsFor settings) {component : Component}
    (member : component ∈ partitioned.components) :
    (partitioned.graph latency).parameters? component.name = some component.parameters := by
  obtain ⟨position, placed⟩ := List.mem_iff_getElem?.1 member
  have found : (partitioned.graph latency).component? ⟨position⟩ = some component :=
    graph_getElem?.trans placed
  simp only [ComponentGraph.parameters?, isFor.find?_of_component? found, Option.bind_eq_bind,
    Option.bind_some, found]
  rfl

/-! ## Links -/

/-- The ends of all wires, as the host knows them. -/
def ends (settings : Settings) : List ComponentPort :=
  ((Layout.ofSettings settings).wires.flatMap Wire.sites).map (Layout.ofSettings settings).componentPort

theorem IsFor.ends_nodup (isFor : partitioned.IsFor settings) : (ends settings).Nodup :=
  isFor.begins_all.componentPorts_nodup Wire.all_nodup Layout.reaches_wires

/-- The bound ports are the ends of the wires. -/
theorem IsFor.contains_port (isFor : partitioned.IsFor settings) {port : ComponentPort} :
    (partitioned.graph latency).linkByPort.contains port = true ↔ port ∈ ends settings := by
  have linked : (partitioned.graph latency).linkByPort =
      ((ComponentGraph.empty.pushAll partitioned.components).joinAll
        (partitioned.joints latency)).linkByPort := rfl
  have none : (ComponentGraph.empty.pushAll partitioned.components).linkByPort.contains port = false := by
    rw [ComponentGraph.pushAll_linkByPort]
    rfl
  rw [linked, ComponentGraph.contains_port_joinAll, none, joints, Layout.flatMap_joint_ports,
    isFor.settings_eq, Bool.or_false, decide_eq_true_iff, ends]

/-- A wire is at its position among the links. -/
theorem IsFor.joint_position (isFor : partitioned.IsFor settings) {wire : Wire}
    (member : wire ∈ (Layout.ofSettings settings).wires) :
    (partitioned.joints latency)[wire.position settings.compute.processingNodes.toNat]? =
      some ((Layout.ofSettings settings).joint latency wire) := by
  have placed : (Layout.ofSettings settings).wires[wire.position
      settings.compute.processingNodes.toNat]? = some wire := Wire.getElem?_position member
  rw [joints, isFor.settings_eq, List.getElem?_map, placed]
  rfl

/-- **A wire is found by its name.** -/
theorem IsFor.link?_wire (isFor : partitioned.IsFor settings) {wire : Wire}
    (member : wire ∈ (Layout.ofSettings settings).wires) :
    (partitioned.graph latency).link? wire.name =
      some ((Layout.ofSettings settings).joint latency wire).link := by
  have names : ((partitioned.joints latency).map Joint.name).Nodup := by
    rw [joints, isFor.settings_eq, List.map_map]
    exact Wire.names_nodup
  exact ComponentGraph.link?_joinAll names (isFor.joint_position member)

/-- **A wire is found at both its ends.** -/
theorem IsFor.linkAt?_site (isFor : partitioned.IsFor settings) {site : Site}
    (member : site.wire ∈ (Layout.ofSettings settings).wires) :
    (partitioned.graph latency).linkAt? ((Layout.ofSettings settings).componentPort site) =
      some site.wire.name := by
  have distinct : ((partitioned.joints latency).flatMap Joint.ports).Nodup := by
    rw [joints, Layout.flatMap_joint_ports, isFor.settings_eq]
    exact isFor.ends_nodup
  have found := @IsFor.joint_position _ _ latency isFor _ member
  refine ComponentGraph.linkAt?_joinAll distinct found ?_
  rw [Layout.joint_ports]
  exact List.mem_map_of_mem (Wire.mem_sites_iff.2 rfl)

end MemoryFabric.Partitioned

import MemoryFabric.Proofs.Fabric.Lookups
import MemoryFabric.Proofs.Fabric.Outcome
import MemoryFabric.Proofs.Fabric.RecordedAddresses

/-!
# Routes

Who owns an address is computed three times: by the decoder of the fabric, by each memory controller from the
texts that it was given, and by the router from the number of a port.  In a built fabric all three agree.

Main statement: **`buildFresh_routes_addresses`**.
-/

namespace MemoryFabric

set_option autoImplicit false

namespace ComponentGraph

/-- The parameters that the host has for the controller of a memory node claim an address. -/
def Claims (graph : ComponentGraph) (node : Nat) (address : UInt64) : Prop :=
  ∃ parameters, graph.parameters? ("memory" ++ toString node) = some parameters ∧
    Parameters.Claim parameters address

/-- The link at the router port of a memory node ends at the interface of the node. -/
def LeadsTo (graph : ComponentGraph) (node : Nat) : Prop :=
  ∃ router interface a b, graph.find? "local_network" = some router ∧
    graph.find? ("memory" ++ toString node ++ ".cpulink") = some interface ∧
      graph.linkAt? ⟨router, "port" ++ toString (node + 1)⟩ = some ("link_dir_net_" ++ toString node) ∧
        graph.link? ("link_dir_net_" ++ toString node) =
          some ⟨"link_dir_net_" ++ toString node, some (a, b)⟩ ∧
            a.componentPort = ⟨router, "port" ++ toString (node + 1)⟩ ∧
              b.componentPort = ⟨interface, "port"⟩

end ComponentGraph

/-! ## Descriptors -/

theorem SharesOut.beginsWithTurn {total : UInt64} {descriptors : List NodeDescriptor}
    (shares : SharesOut total descriptors) {descriptor : NodeDescriptor}
    (member : descriptor ∈ descriptors) : descriptor.BeginsWithTurn descriptors.length := by
  intro interleave taken
  rcases shares.shared with tiles | ⟨agreed, turns⟩
  · cases (tiles.contiguous descriptor member).symm.trans taken
  · cases (turns.agree descriptor member).symm.trans taken
    exact ⟨turns.granule, turns.stride, turns.first descriptor member⟩

/-- A claimed address is inside the space. -/
theorem SharesOut.lt_of_claims {total : UInt64} {descriptors : List NodeDescriptor}
    (shares : SharesOut total descriptors) {descriptor : NodeDescriptor}
    (member : descriptor ∈ descriptors) {nodes : Nat} {address : UInt64}
    (claims : descriptor.Claims nodes address) : address < total :=
  UInt64.lt_of_le_of_lt claims.1.2 (shares.inside descriptor member)

/-! ## Recorded claims -/

/-- Claims are read from the values of parameters. -/
theorem Parameters.claim_congr {first second : Parameters} {address : UInt64}
    (same : ∀ name, first.get? name = second.get? name) :
    Claim first address ↔ Claim second address := by
  simp only [Claim, InTurn, address?, size?, same]

namespace Partitioned

variable {settings : Settings} {partitioned : Partitioned} {latency : Latency}

/-- The parameters of a controller are recorded under the name of its node. -/
theorem IsFor.parameters?_controller (isFor : partitioned.IsFor settings) {descriptor : NodeDescriptor}
    (member : descriptor ∈ partitioned.descriptors) :
    (partitioned.graph latency).parameters? (Part.controller descriptor.node).name =
      some ((∅ : Parameters).extend (Table.memoryController settings descriptor)) := by
  have created : ∃ component ∈ partitioned.components,
      component.name = (Part.controller descriptor.node).name ∧
        component.parameters = (∅ : Parameters).extend (Table.memoryController settings descriptor) := by
    refine ⟨_, List.mem_append_left _ (List.mem_append_right _
      (List.mem_flatMap.2 ⟨descriptor, member, List.mem_cons_self⟩)), rfl, ?_⟩
    rw [isFor.settings_eq]
    rfl
  obtain ⟨component, component_mem, name, parameters⟩ := created
  rw [← name, ← parameters]
  exact isFor.parameters?_of_mem component_mem

theorem IsFor.sharesOut (isFor : partitioned.IsFor settings) :
    SharesOut settings.memory.totalBytes partitioned.descriptors :=
  sharesOut_of_verifyCoverage isFor.covered

theorem IsFor.node_lt (isFor : partitioned.IsFor settings) {descriptor : NodeDescriptor}
    (member : descriptor ∈ partitioned.descriptors) : descriptor.node < partitioned.descriptors.length :=
  (verifyCoverage_represents isFor.covered).node_lt_length member

/-- Every part of a memory node belongs to a descriptor. -/
theorem IsFor.exists_descriptor (isFor : partitioned.IsFor settings) {node : Nat}
    (member : Part.controller node ∈ (Layout.ofSettings settings).parts) :
    ∃ descriptor ∈ partitioned.descriptors, descriptor.node = node := by
  have inside : node < settings.memory.nodes.toNat := by
    cases core : Core.ofSettings settings <;>
      simpa [Layout.parts, Layout.ofSettings, Part.all, Part.ofNode, Part.shared, Part.ofMemoryNode,
        Part.ofRouter, core] using member
  rw [← List.mem_map, isFor.numbered]
  exact List.mem_range.2 inside

/-- **What the host has recorded claims an address for a node when its descriptor does.** -/
theorem IsFor.claims_iff (isFor : partitioned.IsFor settings) {node : Nat} {address : UInt64} :
    (partitioned.graph latency).Claims node address ↔
      ∃ descriptor ∈ partitioned.descriptors, descriptor.node = node ∧
        descriptor.Claims partitioned.descriptors.length address := by
  have name : "memory" ++ toString node = (Part.controller node).name := by
    simp [Part.name, MemoryNode.nodeName]
  have transfer : ∀ descriptor ∈ partitioned.descriptors,
      (Parameters.Claim ((∅ : Parameters).extend (Table.memoryController settings descriptor)) address ↔
        descriptor.Claims partitioned.descriptors.length address) := by
    intro descriptor member
    rw [@Parameters.claim_congr _ (Table.memoryController settings descriptor)]
    · exact Table.claim_memoryController_iff (isFor.node_lt member) (isFor.sharesOut.beginsWithTurn member)
    · intro name
      rw [SortedMap.get?_extend]
      exact Option.or_none
  rw [ComponentGraph.Claims, name]
  constructor
  · rintro ⟨parameters, recorded, claim⟩
    obtain ⟨handle, found, _⟩ := Option.bind_eq_some_iff.1 recorded
    obtain ⟨descriptor, member, rfl⟩ := isFor.exists_descriptor (isFor.part_of_find? found)
    cases (isFor.parameters?_controller member).symm.trans recorded
    exact ⟨descriptor, member, rfl, (transfer descriptor member).1 claim⟩
  · rintro ⟨descriptor, member, rfl, claim⟩
    exact ⟨_, isFor.parameters?_controller member, (transfer descriptor member).2 claim⟩

/-- **The router has every memory node at the port with its number.** -/
theorem IsFor.leadsTo (isFor : partitioned.IsFor settings) {node : Nat}
    (inside : node < settings.memory.nodes.toNat) : (partitioned.graph latency).LeadsTo node := by
  have member : Wire.memory node ∈ (Layout.ofSettings settings).wires :=
    List.mem_append_right _ (List.mem_map_of_mem (List.mem_range.2 inside))
  have router := @IsFor.find?_part _ _ latency isFor _
    (Layout.reaches_wires _ member (.downlink node) List.mem_cons_self)
  have interface := @IsFor.find?_part _ _ latency isFor _
    (Layout.reaches_wires _ member (.memoryInterface node) (List.mem_cons_of_mem _ List.mem_cons_self))
  have atPort := @IsFor.linkAt?_site _ _ latency isFor (.downlink node) member
  have named := @IsFor.link?_wire _ _ latency isFor _ member
  have full : "memory" ++ toString node ++ ".cpulink" = (Part.memoryInterface node).name := by
    simp [Part.name, MemoryNode.nodeName, String.append_assoc]
  refine ⟨_, _, _, _, router, ?_, atPort, named, rfl, rfl⟩
  rw [full]
  exact interface

end Partitioned

/-! ## Built fabrics -/

namespace Topology

variable {settings : Settings} {tracker : Tracker} {topology : Topology} {recorder : Recorder}

/-- **In a built fabric every address of the memory has one owner**: the one controller whose recorded
parameters claim it, the node that the decoder gives, and the one that the router leads to.  No other
address is claimed. -/
theorem buildFresh_routes_addresses
    (built : buildFresh tracker settings = .ok (.ok topology, recorder)) (address : UInt64) :
    (address < settings.memory.totalBytes →
      ∃ node < settings.memory.nodes.toNat,
        (∀ other, recorder.graph.Claims other address ↔ other = node) ∧
          topology.decoder.decode address = .ok (some node) ∧ recorder.graph.LeadsTo node) ∧
      (settings.memory.totalBytes ≤ address →
        (∀ node, ¬ recorder.graph.Claims node address) ∧ topology.decoder.decode address = .ok none) := by
  obtain ⟨partitioned, latency, _, _, made, _, _, _, isOf, graph_eq⟩ := buildFresh_ok built
  have isFor := Partitioned.isFor_of_ofSettings made
  have represents := verifyCoverage_represents isFor.covered
  have decoder : topology.decoder = partitioned.decoder :=
    congrArg Partitioned.decoder isOf.partitioned_eq
  rw [graph_eq, decoder]
  constructor
  · intro inside
    obtain ⟨owner, claims, decoded⟩ := exists_claimant isFor.covered inside
    have below : (partitioned.descriptors.get owner).node < settings.memory.nodes.toNat := by
      rw [← isFor.length_descriptors]
      exact isFor.node_lt (List.get_mem _ _)
    refine ⟨_, below, fun other => ?_, decoded, isFor.leadsTo below⟩
    rw [isFor.claims_iff]
    constructor
    · rintro ⟨descriptor, member, rfl, claim⟩
      obtain ⟨position, rfl⟩ := List.mem_iff_get.1 member
      rw [(claims position).1 claim]
    · rintro rfl
      exact ⟨_, List.get_mem _ _, rfl, (claims owner).2 rfl⟩
  · intro outside
    refine ⟨fun node claimed => ?_, represents.decode_of_total_le outside⟩
    obtain ⟨descriptor, member, _, claim⟩ := isFor.claims_iff.1 claimed
    exact UInt64.not_lt.2 outside (isFor.sharesOut.lt_of_claims member claim)

/-- The memory of the default configuration begins at its only node. -/
theorem default_routes_zero : ∃ topology recorder, buildFresh .silent {} = .ok (.ok topology, recorder) ∧
    recorder.graph.Claims 0 0 ∧ topology.decoder.decode 0 = .ok (some 0) ∧ recorder.graph.LeadsTo 0 := by
  obtain ⟨_, _, topology, recorder, _, built, _⟩ := default_built
  obtain ⟨node, below, claims, decoded, leads⟩ :=
    (buildFresh_routes_addresses built 0).1 (by decide)
  obtain rfl : node = 0 := Nat.lt_one_iff.1 below
  exact ⟨topology, recorder, built, (claims 0).2 rfl, decoded, leads⟩

end Topology

end MemoryFabric

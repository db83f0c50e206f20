import MemoryFabric.Proofs.Fabric.Part
import MemoryFabric.Proofs.Port.Allocation
import Mathlib.Data.List.Perm.Basic

/-!
# The wires of a fabric

The ports of a fabric are the sites where wires end.  Different sites have different ports
(`Site.id_injective`) and different wires have different names (`Wire.name_injective`); every site is an end
of exactly one wire (`Wire.sites_nodup`).  The ports that a build expects are the same ones in another order
(`Site.expected_perm`).
-/

namespace MemoryFabric

set_option autoImplicit false

/-! ## Sites -/

/-- A port in a fabric that has to be connected. -/
inductive Site where
  /-- From a core to its cache. -/
  | client (index : Nat)
  /-- From a private cache to its core. -/
  | cacheAbove (index : Nat)
  /-- From a private cache to the bus. -/
  | cacheBelow (index : Nat)
  /-- From the bus to a private cache. -/
  | busAbove (index : Nat)
  /-- From the bus to the shared cache. -/
  | busBelow
  /-- From the shared cache to the bus. -/
  | memoryLink
  /-- From the shared cache to the router. -/
  | cacheInterface
  /-- From the router to the shared cache. -/
  | uplink
  /-- From the router to a memory node. -/
  | downlink (node : Nat)
  /-- From a memory node to the router. -/
  | memoryInterface (node : Nat)
  deriving DecidableEq, Repr

namespace Site

/-- The part that the port belongs to; which part faces the cache depends on the core. -/
def part (core : Core) : Site → Part
  | client index =>
    match core with
    | .program => .coreInterface index
    | .generator _ => .core index
  | cacheAbove index => .firstCache index
  | cacheBelow index => .firstCache index
  | busAbove _ => .bus
  | busBelow => .bus
  | memoryLink => .memoryLink
  | cacheInterface => .cacheInterface
  | uplink => .router
  | downlink _ => .router
  | memoryInterface node => .memoryInterface node

/-- The name of the port at its component. -/
def port (core : Core) : Site → String
  | client _ => core.cachePort
  | cacheAbove _ => PortName.above
  | cacheBelow _ => PortName.below
  | busAbove index => "high_network_" ++ toString index
  | busBelow => PortName.below
  | memoryLink => PortName.single
  | cacheInterface => PortName.single
  | uplink => "port" ++ toString 0
  | downlink node => "port" ++ toString (node + 1)
  | memoryInterface _ => PortName.single

/-- The full name of the port. -/
def id (core : Core) (site : Site) : PortId := ⟨(site.part core).name, site.port core⟩

theorem busAbove_ne_busBelow {core : Core} (index : Nat) :
    (busAbove index).port core ≠ busBelow.port core := by
  refine Text.ne_of_skeleton_ne ?_
  simp [port, Text.skeleton, Text.filter_toDigits, PortName.below]

theorem uplink_ne_downlink {core : Core} (node : Nat) :
    uplink.port core ≠ (downlink node).port core := fun same =>
  Nat.succ_ne_zero node (Text.repr_inj.1 ((String.append_right_inj _).1 same)).symm

/-- **Different sites are different ports.** -/
theorem id_injective (core : Core) : Function.Injective (id core) := by
  intro a b same
  have parts : a.part core = b.part core := Part.name_injective (congrArg PortId.component same)
  have ports : a.port core = b.port core := congrArg PortId.port same
  -- The bus and the router have several ports; all other parts have one, or two fixed ones.
  cases core <;> cases a <;> cases b <;> simp [part] at parts ⊢ <;>
    first
      | exact parts
      | exact absurd ports (busAbove_ne_busBelow _)
      | exact absurd ports.symm (busAbove_ne_busBelow _)
      | exact absurd ports (uplink_ne_downlink _)
      | exact absurd ports.symm (uplink_ne_downlink _)
      | refine absurd ports ?_; simp [port, PortName.above, PortName.below]; done
      | simpa [port, Text.repr_inj] using ports

end Site

/-! ## Wires -/

/-- A link of a fabric. -/
inductive Wire where
  /-- From a core to its cache. -/
  | core (index : Nat)
  /-- From a private cache to the bus. -/
  | cache (index : Nat)
  /-- From the bus to the shared cache. -/
  | bus
  /-- From the shared cache to the router. -/
  | network
  /-- From the router to a memory node. -/
  | memory (node : Nat)
  deriving DecidableEq, Repr

namespace Wire

/-- The name of the link. -/
def name : Wire → String
  | core index => "link_cpu_l1_" ++ toString index
  | cache index => "link_l1_" ++ toString index ++ "_cpubus"
  | bus => "link_cpubus_l2"
  | network => "link_cache_net_0"
  | memory node => "link_dir_net_" ++ toString node

/-- The name without its digits. -/
def stem : Wire → String
  | core _ => "link_cpu_l_"
  | cache _ => "link_l__cpubus"
  | bus => "link_cpubus_l"
  | network => "link_cache_net_"
  | memory _ => "link_dir_net_"

theorem skeleton_name (wire : Wire) : Text.skeleton wire.name = wire.stem.toList := by
  cases wire <;> simp [name, stem, Text.skeleton, Text.filter_toDigits]

/-- **The name of a link tells its wire.** -/
theorem name_injective : Function.Injective name := by
  intro a b same
  have stems : a.stem = b.stem := by
    rw [← String.toList_inj, ← skeleton_name, ← skeleton_name, same]
  cases a <;> cases b <;> simp [stem] at stems ⊢ <;> simpa [name, Text.repr_inj] using same

/-- The end that is connected first. -/
def a : Wire → Site
  | core index => .client index
  | cache index => .cacheBelow index
  | bus => .busBelow
  | network => .cacheInterface
  | memory node => .downlink node

/-- The end that is connected second. -/
def b : Wire → Site
  | core index => .cacheAbove index
  | cache index => .busAbove index
  | bus => .memoryLink
  | network => .uplink
  | memory node => .memoryInterface node

/-- Both ends. -/
def sites (wire : Wire) : List Site := [wire.a, wire.b]

/-- The wires of a processing node with its cache. -/
def ofNode (index : Nat) : List Wire := [core index, cache index]

/-- The wires in the order in which they are connected. -/
def all (processingNodes memoryNodes : Nat) : List Wire :=
  (List.range processingNodes).flatMap ofNode ++ [bus, network] ++ (List.range memoryNodes).map memory

end Wire

/-- The wire that ends at a site. -/
def Site.wire : Site → Wire
  | client index => .core index
  | cacheAbove index => .core index
  | cacheBelow index => .cache index
  | busAbove index => .cache index
  | busBelow => .bus
  | memoryLink => .bus
  | cacheInterface => .network
  | uplink => .network
  | downlink node => .memory node
  | memoryInterface node => .memory node

theorem Wire.mem_sites_iff {wire : Wire} {site : Site} : site ∈ wire.sites ↔ site.wire = wire := by
  cases wire <;> cases site <;> simp [sites, a, b, Site.wire, eq_comm]

namespace Wire

variable {processingNodes memoryNodes : Nat}

/-- The number of the link in the order of connection. -/
def position (processingNodes : Nat) : Wire → Nat
  | core index => 2 * index
  | cache index => 2 * index + 1
  | bus => 2 * processingNodes
  | network => 2 * processingNodes + 1
  | memory node => 2 * processingNodes + 2 + node

/-- **The wires are connected in the order of their positions.** -/
theorem positions_all :
    (all processingNodes memoryNodes).map (position processingNodes) =
      List.range (2 * processingNodes + 2 + memoryNodes) := by
  have nodes : ((List.range processingNodes).flatMap fun index =>
      (ofNode index).map (position processingNodes)) =
        (List.range (2 * processingNodes)).map (0 + ·) := by
    rw [← flatMap_blocks]
    simp [ofNode, position, List.range_succ]
  simp only [all, List.map_append, List.map_flatMap, nodes, List.range_add]
  simp [position, List.range_succ, Function.comp_def]

theorem all_nodup : (all processingNodes memoryNodes).Nodup := by
  refine List.Nodup.of_map (position processingNodes) ?_
  rw [positions_all]
  exact List.nodup_range

theorem names_nodup : ((all processingNodes memoryNodes).map name).Nodup :=
  all_nodup.map name_injective

theorem getElem?_position {wire : Wire} (member : wire ∈ all processingNodes memoryNodes) :
    (all processingNodes memoryNodes)[position processingNodes wire]? = some wire :=
  getElem?_of_map_eq_range positions_all member

/-- Wires of which each is there once have all their ends at different sites. -/
theorem sites_nodup {wires : List Wire} (distinct : wires.Nodup) : (wires.flatMap sites).Nodup := by
  refine List.nodup_flatMap.2 ⟨fun wire _ => ?_, distinct.imp fun different site first second => ?_⟩
  · cases wire <;> simp [sites, a, b]
  · exact different ((mem_sites_iff.1 first).symm.trans (mem_sites_iff.1 second))

theorem length_all : (all processingNodes memoryNodes).length = 2 * processingNodes + 2 + memoryNodes := by
  rw [← List.length_map (position processingNodes), positions_all, List.length_range]

theorem length_sites {wires : List Wire} : (wires.flatMap sites).length = 2 * wires.length := by
  rw [List.length_flatMap]
  simp [sites, Nat.mul_comm]

end Wire

/-! ## Expected ports -/

namespace Site

/-- The ports of a processing node with its cache. -/
def ofNode (index : Nat) : List Site := [client index, cacheAbove index, cacheBelow index]

/-- The ports in the order in which a build expects them. -/
def expected (processingNodes memoryNodes : Nat) : List Site :=
  (List.range processingNodes).flatMap ofNode ++ (List.range processingNodes).map busAbove ++
    [busBelow, memoryLink] ++ [cacheInterface] ++
      (uplink :: (List.range memoryNodes).map downlink) ++
        (List.range memoryNodes).map memoryInterface

variable {processingNodes memoryNodes : Nat}

/-- **A build expects the ports that its wires end at.** -/
theorem expected_perm :
    (expected processingNodes memoryNodes).Perm
      ((Wire.all processingNodes memoryNodes).flatMap Wire.sites) := by
  have nodes := List.flatMap_append_perm (List.range processingNodes) ofNode fun index => [busAbove index]
  have memory := List.flatMap_append_perm (List.range memoryNodes) (fun node => [downlink node])
    fun node => [memoryInterface node]
  rw [← List.map_eq_flatMap] at nodes
  rw [← List.map_eq_flatMap, ← List.map_eq_flatMap] at memory
  have split : (Wire.all processingNodes memoryNodes).flatMap Wire.sites =
      ((List.range processingNodes).flatMap fun index => ofNode index ++ [busAbove index]) ++
        [busBelow, memoryLink, cacheInterface, uplink] ++
          (List.range memoryNodes).flatMap fun node => [downlink node] ++ [memoryInterface node] := by
    simp [Wire.all, Wire.ofNode, List.flatMap_assoc, List.flatMap_map, Wire.sites, Wire.a, Wire.b,
      ofNode]
  rw [split]
  have joined := (nodes.append_right [busBelow, memoryLink, cacheInterface, uplink]).append memory
  simpa [expected] using joined

end Site

end MemoryFabric

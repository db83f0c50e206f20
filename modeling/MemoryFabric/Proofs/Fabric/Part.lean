import MemoryFabric.Fabric.Phase
import MemoryFabric.Proofs.Text.Skeleton
import Mathlib.Data.List.Nodup

/-!
# The parts of a fabric

Every component of a fabric has a part to play, and the part determines the full name of the component.
Different parts have different names (`Part.name_injective`), so nothing that a build creates meets a name
that is taken.
-/

namespace MemoryFabric

set_option autoImplicit false

/-! ## Numbered lists -/

/-- Blocks of one width that follow one another. -/
theorem flatMap_blocks {start wide count : Nat} :
    ((List.range count).flatMap fun index =>
      (List.range wide).map (start + wide * index + ·)) = (List.range (wide * count)).map (start + ·) := by
  induction count with
  | zero => simp
  | succ count ih =>
      rw [List.range_succ, List.flatMap_append, ih, Nat.mul_succ, List.range_add, List.map_append,
        List.map_map]
      simp [Function.comp_def, Nat.add_assoc]

/-- Where the elements are numbered in their order, each is found at its number. -/
theorem getElem?_of_map_eq_range {α : Type} {entries : List α} {position : α → Nat} {count : Nat}
    (ordered : entries.map position = List.range count) {entry : α} (member : entry ∈ entries) :
    entries[position entry]? = some entry := by
  obtain ⟨index, found⟩ := List.mem_iff_getElem?.1 member
  have placed : (entries.map position)[index]? = some (position entry) := by
    rw [List.getElem?_map, found]
    rfl
  rw [ordered] at placed
  have inside := (List.getElem?_eq_some_iff.1 placed).1
  rw [List.length_range] at inside
  rw [List.getElem?_range inside] at placed
  cases placed
  exact found

/-! ## Parts -/

/-- What a component of a fabric is for; cores and memory nodes are numbered. -/
inductive Part where
  | core (index : Nat)
  | coreController (index : Nat)
  | coreInterface (index : Nat)
  | generator (index : Nat)
  | firstCache (index : Nat)
  | bus
  | secondCache
  | memoryLink
  | cacheInterface
  | controller (node : Nat)
  | accelerator (node : Nat)
  | storage (node : Nat)
  | memoryInterface (node : Nat)
  | router
  | routerTopology
  deriving DecidableEq, Repr

namespace Part

/-- The full name of the component. -/
def name : Part → String
  | core index => ProcessingNode.nodeName index
  | coreController index => ProcessingNode.nodeName index ++ "." ++ "memory"
  | coreInterface index => ProcessingNode.nodeName index ++ "." ++ "memory" ++ "." ++ "memIface"
  | generator index => ProcessingNode.nodeName index ++ "." ++ "generator"
  | firstCache index => ProcessingNode.cacheNameOf index
  | bus => busName
  | secondCache => sharedCacheName
  | memoryLink => sharedCacheName ++ "." ++ "cpulink"
  | cacheInterface => sharedCacheName ++ "." ++ "memlink"
  | controller node => MemoryNode.nodeName node
  | accelerator node => MemoryNode.nodeName node ++ "." ++ "backend"
  | storage node => MemoryNode.nodeName node ++ "." ++ "backend" ++ "." ++ "backend"
  | memoryInterface node => MemoryNode.nodeName node ++ "." ++ "cpulink"
  | router => routerName
  | routerTopology => routerName ++ "." ++ "topology"

/-- The name without its digits. -/
def stem : Part → String
  | core _ => "cpu"
  | coreController _ => "cpu.memory"
  | coreInterface _ => "cpu.memory.memIface"
  | generator _ => "cpu.generator"
  | firstCache _ => "l_"
  | bus => "cpubus"
  | secondCache => "lcache"
  | memoryLink => "lcache.cpulink"
  | cacheInterface => "lcache.memlink"
  | controller _ => "memory"
  | accelerator _ => "memory.backend"
  | storage _ => "memory.backend.backend"
  | memoryInterface _ => "memory.cpulink"
  | router => "local_network"
  | routerTopology => "local_network.topology"

theorem skeleton_name (part : Part) : Text.skeleton part.name = part.stem.toList := by
  cases part <;>
    simp [name, stem, Text.skeleton, ProcessingNode.nodeName, ProcessingNode.cacheNameOf,
      MemoryNode.nodeName, Text.filter_toDigits, busName, sharedCacheName, routerName]

theorem stem_eq_of_name_eq {a b : Part} (same : a.name = b.name) : a.stem = b.stem := by
  rw [← String.toList_inj, ← skeleton_name, ← skeleton_name, same]

/-- **The name of a component tells its part.** -/
theorem name_injective : Function.Injective name := by
  intro a b same
  have stems := stem_eq_of_name_eq same
  -- Parts of different shapes have different stems; for equal shapes the numbers decide.
  cases a <;> cases b <;> simp [stem] at stems ⊢ <;>
    simpa [name, ProcessingNode.nodeName, ProcessingNode.cacheNameOf, MemoryNode.nodeName,
      Text.repr_inj] using same

theorem name_ne_empty (part : Part) : part.name ≠ "" := by
  refine Text.ne_of_skeleton_ne ?_
  rw [skeleton_name]
  cases part <;> simp [stem, Text.skeleton]

/-! ## Parts in the order of their creation -/

/-- The parts of a processing node. -/
def ofNode (core : Core) (index : Nat) : List Part :=
  match core with
  | .program => [.core index, .coreController index, .coreInterface index, .firstCache index]
  | .generator _ => [.core index, .generator index, .firstCache index]

/-- What the processing nodes share. -/
def shared : List Part := [.bus, .secondCache, .memoryLink, .cacheInterface]

/-- The parts of a memory node. -/
def ofMemoryNode (node : Nat) : List Part :=
  [.controller node, .accelerator node, .storage node, .memoryInterface node]

/-- The parts of the router. -/
def ofRouter : List Part := [.router, .routerTopology]

/-- The parts of a fabric. -/
def all (core : Core) (processingNodes memoryNodes : Nat) : List Part :=
  (List.range processingNodes).flatMap (ofNode core) ++ shared ++
    (List.range memoryNodes).flatMap ofMemoryNode ++ ofRouter

theorem eq_of_mem_ofNode {core : Core} {part : Part} {a b : Nat} (first : part ∈ ofNode core a)
    (second : part ∈ ofNode core b) : a = b := by
  cases core <;> cases part <;> simp [ofNode] at first second <;> omega

theorem eq_of_mem_ofMemoryNode {part : Part} {a b : Nat} (first : part ∈ ofMemoryNode a)
    (second : part ∈ ofMemoryNode b) : a = b := by
  cases part <;> simp [ofMemoryNode] at first second <;> omega

theorem not_mem_shared_of_mem_ofNode {core : Core} {part : Part} {index : Nat}
    (member : part ∈ ofNode core index) : part ∉ shared := by
  cases core <;> cases part <;> simp [ofNode, shared] at member ⊢

/-- How many parts a processing node has. -/
def width : Core → Nat
  | .program => 4
  | .generator _ => 3

/-- The number of the component in the order of creation. -/
def position (core : Core) (processingNodes memoryNodes : Nat) : Part → Nat
  | .core index => width core * index
  | .coreController index => width core * index + 1
  | .coreInterface index => width core * index + 2
  | .generator index => width core * index + 1
  | .firstCache index => width core * index + (width core - 1)
  | .bus => width core * processingNodes
  | .secondCache => width core * processingNodes + 1
  | .memoryLink => width core * processingNodes + 2
  | .cacheInterface => width core * processingNodes + 3
  | .controller node => width core * processingNodes + 4 + 4 * node
  | .accelerator node => width core * processingNodes + 4 + 4 * node + 1
  | .storage node => width core * processingNodes + 4 + 4 * node + 2
  | .memoryInterface node => width core * processingNodes + 4 + 4 * node + 3
  | .router => width core * processingNodes + 4 + 4 * memoryNodes
  | .routerTopology => width core * processingNodes + 4 + 4 * memoryNodes + 1

section Positions

variable {core : Core} {processingNodes memoryNodes : Nat}

theorem positions_ofNode {index : Nat} :
    (ofNode core index).map (position core processingNodes memoryNodes) =
      (List.range (width core)).map (0 + width core * index + ·) := by
  rw [Nat.zero_add]
  cases core <;> rfl

theorem positions_ofMemoryNode {node : Nat} :
    (ofMemoryNode node).map (position core processingNodes memoryNodes) =
      (List.range 4).map (width core * processingNodes + 4 + 4 * node + ·) := rfl

/-- **The parts are created in the order of their positions.** -/
theorem positions_all :
    (all core processingNodes memoryNodes).map (position core processingNodes memoryNodes) =
      List.range (width core * processingNodes + 4 + 4 * memoryNodes + 2) := by
  simp only [all, List.map_append, List.map_flatMap, positions_ofNode, positions_ofMemoryNode,
    flatMap_blocks, List.range_add]
  simp [shared, ofRouter, position, List.range_succ]

theorem all_nodup : (all core processingNodes memoryNodes).Nodup := by
  refine List.Nodup.of_map (position core processingNodes memoryNodes) ?_
  rw [positions_all]
  exact List.nodup_range

theorem names_nodup : ((all core processingNodes memoryNodes).map name).Nodup :=
  all_nodup.map name_injective

theorem length_all : (all core processingNodes memoryNodes).length =
    width core * processingNodes + 4 + 4 * memoryNodes + 2 := by
  rw [← List.length_map (position core processingNodes memoryNodes), positions_all,
    List.length_range]

end Positions

end Part

end MemoryFabric

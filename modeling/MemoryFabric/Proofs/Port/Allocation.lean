import MemoryFabric.Port.Allocator
import MemoryFabric.Proofs.Attempt
import MemoryFabric.Proofs.SortedMap
import Mathlib.Data.List.Basic

/-!
# The ports that an allocator issues

An allocator that has issued the numbers below `next` issues `next`, so a row of requests gets consecutive
numbers.  The bus and the router get their ports in this way.
-/

namespace MemoryFabric

set_option autoImplicit false

/-- An entry behind all others is put at the end. -/
theorem SortedEntries.insert_of_forall_gt {κ α : Type} [Ord κ] {key : κ} {value : α}
    {entries : List (κ × α)} (last : ∀ entry ∈ entries, compare key entry.1 = .gt) :
    insert key value entries = entries ++ [(key, value)] := by
  induction entries with
  | nil => rfl
  | cons head rest ih =>
      obtain ⟨above, last⟩ := List.forall_mem_cons.1 last
      simp only [insert, above, ih last, List.cons_append]

namespace PortAllocator

theorem lowestFree_range' {next count : Nat} :
    lowestFree next (List.range' next count) = next + count := by
  induction count generalizing next with
  | zero => rfl
  | succ count ih =>
      rw [List.range'_succ, lowestFree, if_pos rfl, ih]
      omega

/-- Exactly the numbers below `next` have been issued. -/
def HasIssued (allocator : PortAllocator) (next : Nat) : Prop :=
  allocator.issued.keys = List.range next

variable {allocator : PortAllocator} {next : Nat}

theorem HasIssued.issue (issued : allocator.HasIssued next) :
    (allocator.issue next).HasIssued (next + 1) := by
  have last : ∀ entry ∈ allocator.issued.entries, compare next entry.1 = .gt := by
    intro entry member
    have below : entry.1 ∈ allocator.issued.keys := List.mem_map_of_mem member
    rw [issued, List.mem_range] at below
    exact Nat.compare_eq_gt.2 below
  show (SortedEntries.insert next () allocator.issued.entries).map Prod.fst = _
  rw [SortedEntries.insert_of_forall_gt last, List.map_append, List.range_succ]
  exact congrArg (· ++ [next]) issued

theorem HasIssued.allocate (issued : allocator.HasIssued next) :
    allocator.allocate = (allocator.port next, allocator.issue next) := by
  have free : lowestFree 0 (allocator.issued.toList.map Prod.fst) = next := by
    rw [show allocator.issued.toList.map Prod.fst = List.range next from issued,
      List.range_eq_range', lowestFree_range', Nat.zero_add]
  rw [PortAllocator.allocate, free]

/-- **A row of requests gets consecutive numbers.** -/
theorem HasIssued.allocateMany (issued : allocator.HasIssued next) (count : Nat) :
    (allocator.allocateMany count).1 = (List.range' next count).map allocator.port := by
  induction count generalizing allocator next with
  | zero => rfl
  | succ count ih =>
      rw [PortAllocator.allocateMany, issued.allocate, List.range'_succ, List.map_cons]
      exact congrArg (allocator.port next :: ·) (ih issued.issue)

theorem hasIssued_empty (component stem : String) : (empty component stem).HasIssued 0 := rfl

end PortAllocator

/-! ## The ports of a fabric -/

/-- The port of a bus towards the node with a number. -/
def busPort (bus : String) (index : Nat) : PortId := ⟨bus, "high_network_" ++ toString index⟩

/-- The port of a router with a number. -/
def routerPort (router : String) (index : Nat) : PortId := ⟨router, "port" ++ toString index⟩

theorem busPorts_eq (bus : String) {nodes : Nat} (inhabited : nodes ≠ 0) :
    busPorts bus nodes = .ok ((List.range nodes).map (busPort bus)) := by
  rw [busPorts, if_neg inhabited,
    (PortAllocator.hasIssued_empty bus "high_network_").allocateMany, List.range_eq_range']
  rfl

theorem RouterPorts.ofMemoryNodes_eq (router : String) {nodes : Nat} (inhabited : nodes ≠ 0) :
    ofMemoryNodes router nodes =
      .ok ⟨routerPort router 0, (List.range nodes).map fun node => routerPort router (node + 1)⟩ := by
  have first : (PortAllocator.empty router "port").allocateAt 0 =
      .ok (routerPort router 0, (PortAllocator.empty router "port").issue 0) := rfl
  have others := (PortAllocator.hasIssued_empty router "port").issue.allocateMany nodes
  rw [List.range'_eq_map_range, List.map_map] at others
  rw [ofMemoryNodes, if_neg inhabited, first, Attempt.ok_bind]
  simp only [others, Function.comp_def, Nat.zero_add, Nat.add_comm 1]
  rfl

end MemoryFabric

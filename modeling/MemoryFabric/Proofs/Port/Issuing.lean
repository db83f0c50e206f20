import MemoryFabric.Proofs.Port.Allocation
import MemoryFabric.Proofs.Text.Skeleton
import Mathlib.Order.Bounds.Basic

/-!
# Ports are issued once

An allocator can be asked for the lowest free number, for several of them, and for a particular number, in any
order and with any numbers; it goes on after a request that it refuses.  What carries a run is that the ports
that have been handed out are those of the recorded numbers, each once (`HasHandedOut`).

Main statement: **`issues_each_once`**.  No port is handed out twice, the numbers are the lowest that no port
has been handed out for, and a particular number is refused exactly when its port has been handed out.
-/

namespace MemoryFabric

set_option autoImplicit false

/-- A new key is added to the keys. -/
theorem SortedMap.keys_insert_perm {κ α : Type} [Ord κ] [Std.TransOrd κ] [Std.LawfulEqOrd κ]
    [DecidableEq κ] {map : SortedMap κ α} {key : κ} {value : α} (new : map.contains key = false) :
    (map.insert key value).keys.Perm (key :: map.keys) := by
  have absent : key ∉ map.keys := by
    rw [mem_keys_iff, new]
    exact Bool.false_ne_true
  refine (List.perm_ext_iff_of_nodup keys_nodup (List.nodup_cons.2 ⟨absent, keys_nodup⟩)).2 fun other => ?_
  rw [List.mem_cons, mem_keys_iff, mem_keys_iff, contains_insert, Bool.or_eq_true, decide_eq_true_iff]

namespace PortAllocator

/-! ## The lowest numbers -/

/-- Numbers in ascending order that are free and below all other free ones. -/
structure AreLowest (free : Set Nat) (indices : List Nat) : Prop where
  ascending : indices.Pairwise (· < ·)
  among : ∀ index ∈ indices, index ∈ free
  lowest : ∀ index ∈ free, index ∉ indices → ∀ taken ∈ indices, taken < index

theorem areLowest_nil {free : Set Nat} : AreLowest free [] := ⟨.nil, nofun, nofun⟩

/-- The lowest free number comes first, and then those that are the lowest without it. -/
theorem AreLowest.cons {free : Set Nat} {index : Nat} {indices : List Nat} (least : IsLeast free index)
    (others : AreLowest {other ∈ free | other ≠ index} indices) : AreLowest free (index :: indices) where
  ascending := by
    refine List.pairwise_cons.2 ⟨fun other member => ?_, others.ascending⟩
    obtain ⟨among, different⟩ := others.among other member
    exact lt_of_le_of_ne (least.2 among) (Ne.symm different)
  among := List.forall_mem_cons.2 ⟨least.1, fun other member => (others.among other member).1⟩
  lowest := by
    intro other among left
    obtain ⟨different, left⟩ := List.ne_and_not_mem_of_not_mem_cons left
    refine List.forall_mem_cons.2 ⟨lt_of_le_of_ne (least.2 among) (Ne.symm different), ?_⟩
    exact others.lowest other ⟨among, different⟩ left

/-- The search finds the lowest number that is not in an increasing list. -/
theorem lowestFree_isLeast {next : Nat} {keys : List Nat} (increasing : keys.Pairwise (· < ·))
    (above : ∀ key ∈ keys, next ≤ key) :
    IsLeast {index | next ≤ index ∧ index ∉ keys} (lowestFree next keys) := by
  induction keys generalizing next with
  | nil => exact ⟨⟨le_rfl, List.not_mem_nil⟩, fun index free => free.1⟩
  | cons key rest ih =>
      obtain ⟨first, increasing⟩ := List.pairwise_cons.1 increasing
      obtain ⟨next_le, above⟩ := List.forall_mem_cons.1 above
      by_cases taken : key = next
      · subst taken
        obtain ⟨⟨behind, free⟩, least⟩ := @ih (key + 1) increasing first
        rw [lowestFree, if_pos rfl]
        refine ⟨⟨by omega, ?_⟩, fun index free => least ?_⟩
        · exact List.not_mem_cons_of_ne_of_not_mem (by omega) free
        · obtain ⟨different, free_rest⟩ := List.ne_and_not_mem_of_not_mem_cons free.2
          exact ⟨lt_of_le_of_ne free.1 (Ne.symm different), free_rest⟩
      · rw [lowestFree, if_neg taken]
        have free : next ∉ key :: rest := List.not_mem_cons_of_ne_of_not_mem (Ne.symm taken) fun later => by
          have between := first next later
          omega
        exact ⟨⟨le_rfl, free⟩, fun _ other => other.1⟩

/-! ## One request -/

variable {allocator : PortAllocator} {ports : List PortId} {index : Nat}

/-- The numbers that have not been issued. -/
def unissued (allocator : PortAllocator) : Set Nat := {index | allocator.issued.contains index = false}

theorem unissued_issue : (allocator.issue index).unissued = {other ∈ allocator.unissued | other ≠ index} := by
  refine Set.ext fun other => ?_
  show (allocator.issued.insert index ()).contains other = false ↔
    allocator.issued.contains other = false ∧ other ≠ index
  rw [SortedMap.contains_insert, Bool.or_eq_false_iff, decide_eq_false_iff_not]
  exact and_comm

theorem allocate_isLeast (allocator : PortAllocator) :
    ∃ index, IsLeast allocator.unissued index ∧
      allocator.allocate = (allocator.port index, allocator.issue index) := by
  have increasing : allocator.issued.keys.Pairwise (· < ·) :=
    List.pairwise_map.2 (allocator.issued.ordered.imp fun before => Nat.compare_eq_lt.1 before)
  have least := lowestFree_isLeast increasing fun key _ => Nat.zero_le key
  have same : {index | 0 ≤ index ∧ index ∉ allocator.issued.keys} = allocator.unissued := by
    refine Set.ext fun index => (and_iff_right (Nat.zero_le index)).trans ?_
    rw [SortedMap.mem_keys_iff, Bool.not_eq_true]
    exact Iff.rfl
  rw [same] at least
  exact ⟨_, least, rfl⟩

theorem allocateMany_areLowest (allocator : PortAllocator) (count : Nat) :
    ∃ indices, indices.length = count ∧ AreLowest allocator.unissued indices ∧
      (allocator.allocateMany count).1 = indices.map allocator.port := by
  induction count generalizing allocator with
  | zero => exact ⟨[], rfl, areLowest_nil, rfl⟩
  | succ count ih =>
      obtain ⟨index, least, allocated⟩ := allocator.allocate_isLeast
      obtain ⟨indices, length, lowest, ports⟩ := ih (allocator.issue index)
      rw [unissued_issue] at lowest
      refine ⟨index :: indices, congrArg (· + 1) length, .cons least lowest, ?_⟩
      rw [allocateMany, allocated, List.map_cons]
      exact congrArg (allocator.port index :: ·) ports

theorem allocateAt_of_contains (known : allocator.issued.contains index = true) :
    allocator.allocateAt index = .error (.wiring (allocator.port index) .allocatedTwice) := by
  rw [allocateAt, known]
  rfl

theorem allocateAt_of_mem_unissued (free : index ∈ allocator.unissued) :
    allocator.allocateAt index = .ok (allocator.port index, allocator.issue index) := by
  rw [allocateAt, show allocator.issued.contains index = false from free]
  rfl

/-! ## What has been handed out -/

/-- The ports that have been handed out are those of the issued numbers, each once. -/
def HasHandedOut (allocator : PortAllocator) (ports : List PortId) : Prop :=
  ports.Perm (allocator.issued.keys.map allocator.port)

theorem port_injective (allocator : PortAllocator) : Function.Injective allocator.port := by
  intro first second same
  have digits : allocator.stem ++ toString first = allocator.stem ++ toString second :=
    congrArg PortId.port same
  exact Text.repr_inj.1 ((String.append_right_inj _).1 digits)

theorem hasHandedOut_empty (component stem : String) : (empty component stem).HasHandedOut [] :=
  List.Perm.nil

namespace HasHandedOut

theorem nodup (handed : allocator.HasHandedOut ports) : ports.Nodup :=
  handed.nodup_iff.2 (SortedMap.keys_nodup.map allocator.port_injective)

theorem not_mem_iff (handed : allocator.HasHandedOut ports) :
    allocator.port index ∉ ports ↔ index ∈ allocator.unissued := by
  rw [handed.mem_iff, List.mem_map_of_injective allocator.port_injective, SortedMap.mem_keys_iff,
    Bool.not_eq_true]
  exact Iff.rfl

theorem allocatedCount_eq (handed : allocator.HasHandedOut ports) :
    allocator.allocatedCount = ports.length := by
  rw [handed.length_eq, List.length_map, SortedMap.keys, List.length_map]
  rfl

theorem issue (handed : allocator.HasHandedOut ports) (free : index ∈ allocator.unissued) :
    (allocator.issue index).HasHandedOut (ports ++ [allocator.port index]) := by
  have keys : (allocator.issue index).issued.keys.Perm (index :: allocator.issued.keys) :=
    SortedMap.keys_insert_perm free
  calc (ports ++ [allocator.port index]).Perm (allocator.port index :: ports) :=
        List.perm_append_singleton _ _
    _ |>.Perm ((index :: allocator.issued.keys).map allocator.port) := handed.cons _
    _ |>.Perm ((allocator.issue index).issued.keys.map allocator.port) := (keys.map _).symm

theorem allocate (handed : allocator.HasHandedOut ports) :
    allocator.allocate.2.HasHandedOut (ports ++ [allocator.allocate.1]) := by
  obtain ⟨index, least, allocated⟩ := allocator.allocate_isLeast
  rw [allocated]
  exact handed.issue least.1

theorem allocateMany (handed : allocator.HasHandedOut ports) (count : Nat) :
    (allocator.allocateMany count).2.HasHandedOut (ports ++ (allocator.allocateMany count).1) := by
  induction count generalizing allocator ports with
  | zero =>
      rw [PortAllocator.allocateMany, List.append_nil]
      exact handed
  | succ count ih =>
      have later := ih handed.allocate
      rw [List.append_assoc] at later
      exact later

end HasHandedOut

/-! ## Requests one after another -/

/-- What an allocator can be asked for. -/
inductive Request where
  | lowest
  | exactly (index : Nat)
  | several (count : Nat)
  deriving DecidableEq, Repr

/-- The ports for a request, or why there are none; a request that is refused leaves the allocator as it is. -/
def answer (allocator : PortAllocator) : Request → Except BuildError (List PortId) × PortAllocator
  | .lowest => (.ok [allocator.allocate.1], allocator.allocate.2)
  | .exactly index =>
    match allocator.allocateAt index with
    | .ok (port, after) => (.ok [port], after)
    | .error error => (.error error, allocator)
  | .several count => (.ok (allocator.allocateMany count).1, (allocator.allocateMany count).2)

/-- The allocator after requests, whatever it answers to them. -/
def after (allocator : PortAllocator) (requests : List Request) : PortAllocator :=
  requests.foldl (fun allocator request => (allocator.answer request).2) allocator

/-- The ports of an answer. -/
def portsOf : Except BuildError (List PortId) → List PortId
  | .ok ports => ports
  | .error _ => []

/-- All ports that requests are answered with. -/
def handedOut (allocator : PortAllocator) : List Request → List PortId
  | [] => []
  | request :: rest =>
    portsOf (allocator.answer request).1 ++ (allocator.answer request).2.handedOut rest

variable {request : Request} {requests : List Request}

theorem answer_exactly_of_contains (known : allocator.issued.contains index = true) :
    allocator.answer (.exactly index) =
      (.error (.wiring (allocator.port index) .allocatedTwice), allocator) := by
  rw [answer, allocateAt_of_contains known]

theorem answer_exactly_of_mem_unissued (free : index ∈ allocator.unissued) :
    allocator.answer (.exactly index) = (.ok [allocator.port index], allocator.issue index) := by
  rw [answer, allocateAt_of_mem_unissued free]

theorem port_allocateMany (allocator : PortAllocator) (count : Nat) :
    (allocator.allocateMany count).2.port = allocator.port := by
  induction count generalizing allocator with
  | zero => rfl
  | succ count ih => exact ih allocator.allocate.2

/-- Requests change no names. -/
theorem port_answer : (allocator.answer request).2.port = allocator.port := by
  cases request with
  | lowest => rfl
  | exactly index =>
      cases known : allocator.issued.contains index with
      | true => rw [answer_exactly_of_contains known]
      | false =>
          rw [answer_exactly_of_mem_unissued known]
          rfl
  | several count => exact allocator.port_allocateMany count

theorem port_after : (allocator.after requests).port = allocator.port := by
  induction requests generalizing allocator with
  | nil => rfl
  | cons request rest ih => exact (@ih (allocator.answer request).2).trans port_answer

theorem after_concat :
    allocator.after (requests ++ [request]) = ((allocator.after requests).answer request).2 := by
  rw [after, List.foldl_append]
  rfl

/-- What one request adds to the ports that have been handed out. -/
theorem HasHandedOut.answer (handed : allocator.HasHandedOut ports) (request : Request) :
    (allocator.answer request).2.HasHandedOut (ports ++ portsOf (allocator.answer request).1) := by
  cases request with
  | lowest => exact handed.allocate
  | exactly index =>
      cases known : allocator.issued.contains index with
      | true =>
          rw [answer_exactly_of_contains known, portsOf, List.append_nil]
          exact handed
      | false =>
          rw [answer_exactly_of_mem_unissued known]
          exact handed.issue known
  | several count => exact handed.allocateMany count

/-- **After a run the allocator has recorded what it has handed out.** -/
theorem HasHandedOut.after (handed : allocator.HasHandedOut ports) (requests : List Request) :
    (allocator.after requests).HasHandedOut (ports ++ allocator.handedOut requests) := by
  induction requests generalizing allocator ports with
  | nil =>
      rw [handedOut, List.append_nil]
      exact handed
  | cons request rest ih =>
      rw [handedOut, ← List.append_assoc]
      exact ih (handed.answer request)

/-! ## Each port once -/

/-- The numbers that a run has handed out no port for. -/
def remaining (component stem : String) (requests : List Request) : Set Nat :=
  {index | PortId.mk component (stem ++ toString index) ∉ (empty component stem).handedOut requests}

/-- What a new allocator has done after a run of requests, and what it does with the next one. -/
structure IssuesOnce (component stem : String) (requests : List Request) : Prop where
  /-- All ports that have been handed out are different. -/
  distinct : ((empty component stem).handedOut requests).Nodup
  /-- There are as many of them as the allocator counts. -/
  counted : ((empty component stem).after requests).allocatedCount =
    ((empty component stem).handedOut requests).length
  /-- The next port has the lowest number that is left. -/
  lowest : ∃ index, IsLeast (remaining component stem requests) index ∧
    (((empty component stem).after requests).answer .lowest).1 =
      .ok [⟨component, stem ++ toString index⟩]
  /-- Several ports have the lowest numbers that are left, in ascending order. -/
  several : ∀ count, ∃ indices, indices.length = count ∧
    AreLowest (remaining component stem requests) indices ∧
      (((empty component stem).after requests).answer (.several count)).1 =
        .ok (indices.map fun index => ⟨component, stem ++ toString index⟩)
  /-- A number that is left is issued when it is asked for. -/
  exactly : ∀ index ∈ remaining component stem requests,
    (((empty component stem).after requests).answer (.exactly index)).1 =
      .ok [⟨component, stem ++ toString index⟩]
  /-- Another number is refused, and nothing changes. -/
  refused : ∀ index ∉ remaining component stem requests,
    (((empty component stem).after requests).answer (.exactly index)).1 =
        .error (.wiring ⟨component, stem ++ toString index⟩ .allocatedTwice) ∧
      (empty component stem).after (requests ++ [.exactly index]) = (empty component stem).after requests

theorem remaining_eq (component stem : String) (requests : List Request) :
    remaining component stem requests = ((empty component stem).after requests).unissued := by
  have handed := (hasHandedOut_empty component stem).after requests
  refine Set.ext fun index => ?_
  rw [← handed.not_mem_iff, port_after]
  exact Iff.rfl

theorem issuesOnce (component stem : String) (requests : List Request) :
    IssuesOnce component stem requests := by
  have handed := (hasHandedOut_empty component stem).after requests
  have named : ((empty component stem).after requests).port = (empty component stem).port := port_after
  have free := remaining_eq component stem requests
  refine ⟨handed.nodup, handed.allocatedCount_eq, ?_, fun count => ?_, fun index among => ?_,
    fun index taken => ?_⟩
  · obtain ⟨index, least, allocated⟩ := ((empty component stem).after requests).allocate_isLeast
    refine ⟨index, free ▸ least, ?_⟩
    rw [answer, allocated, named]
    rfl
  · obtain ⟨indices, length, lowest, ports⟩ :=
      ((empty component stem).after requests).allocateMany_areLowest count
    refine ⟨indices, length, free ▸ lowest, ?_⟩
    rw [answer, ports, named]
    rfl
  · rw [free] at among
    rw [answer_exactly_of_mem_unissued among, named]
    rfl
  · rw [free] at taken
    have known : ((empty component stem).after requests).issued.contains index = true :=
      eq_true_of_ne_false taken
    rw [after_concat, answer_exactly_of_contains known, named]
    exact ⟨rfl, rfl⟩

/-- **Every port is issued once**, whatever is asked for.  So the ports of a bus are numbered from 0, and those
of a router towards the memory nodes from 1, behind the one towards the processing nodes. -/
theorem issues_each_once (component stem : String) :
    (∀ requests, IssuesOnce component stem requests) ∧
      (∀ nodes, 1 ≤ nodes → busPorts component nodes =
        .ok ((List.range nodes).map fun index => ⟨component, "high_network_" ++ toString index⟩)) ∧
      ∀ nodes, 1 ≤ nodes → RouterPorts.ofMemoryNodes component nodes =
        .ok ⟨⟨component, "port0"⟩,
          (List.range nodes).map fun node => ⟨component, "port" ++ toString (node + 1)⟩⟩ :=
  ⟨issuesOnce component stem,
    fun _ inhabited => busPorts_eq component (Nat.ne_of_gt inhabited),
    fun _ inhabited => RouterPorts.ofMemoryNodes_eq component (Nat.ne_of_gt inhabited)⟩

/-- A reserved number is skipped and cannot be reserved again. -/
theorem issues_each_once_reserved :
    (empty "local_network" "port").handedOut [.exactly 1, .lowest, .exactly 1, .several 2] =
        [⟨"local_network", "port1"⟩, ⟨"local_network", "port0"⟩, ⟨"local_network", "port2"⟩,
          ⟨"local_network", "port3"⟩] ∧
      IssuesOnce "local_network" "port" [.exactly 1, .lowest, .exactly 1, .several 2] ∧
      1 ≤ 2 ∧ busPorts "local_network" 2 =
        .ok [⟨"local_network", "high_network_0"⟩, ⟨"local_network", "high_network_1"⟩] ∧
      RouterPorts.ofMemoryNodes "local_network" 2 =
        .ok ⟨⟨"local_network", "port0"⟩, [⟨"local_network", "port1"⟩, ⟨"local_network", "port2"⟩]⟩ := by
  obtain ⟨issues, bus, router⟩ := issues_each_once "local_network" "port"
  refine ⟨by decide +kernel, issues _, by decide, ?_, ?_⟩
  · exact bus 2 (by decide)
  · exact router 2 (by decide)

end PortAllocator

end MemoryFabric

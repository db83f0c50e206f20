import MemoryFabric.Proofs.Fabric.ReportedBuild
import Mathlib.Order.Interval.Set.Defs

/-!
# The working sets of all processing nodes

The check of a configuration looks at the working set of the last processing node only.  That is enough: the
working set of a node begins one stride behind that of its neighbour, and all of them end with the memory, so
that the last one is the first that does not fit.

A working set is where it should be in numbers without bounds (`WorkingSet.IsAt`) whenever there is one at all,
for indices of any size (`WorkingSet.ofNode_eq_ok_iff`); the checked operations on words compute the same
(`WorkingSet.ofNode_eq_ok_iff_words`).

Main statement: **`Settings.check_covers_workingSets`**.
-/

namespace MemoryFabric

set_option autoImplicit false

/-! ## Where a working set is -/

namespace WorkingSet

/-- The working set of a node begins with the window of the node and takes the rest of the memory, which is not
empty. -/
structure IsAt (index : Nat) (total : UInt64) (placement : WorkingSet) : Prop where
  heapBuffer : placement.heapBuffer.toNat = index * workingSetStride
  ends : placement.heapBuffer.toNat + placement.memorySize.toNat = total.toNat
  nonempty : 1 ≤ placement.memorySize.toNat

/-- The addresses within one stride of the heap buffer. -/
def window (placement : WorkingSet) : Set Nat :=
  Set.Ico placement.heapBuffer.toNat (placement.heapBuffer.toNat + workingSetStride)

/-- Two working sets of which the first is lower by a stride at least, with a memory that is larger by as much,
and whose windows have no address in common. -/
structure Apart (lower higher : WorkingSet) : Prop where
  heapBuffer : lower.heapBuffer.toNat + workingSetStride ≤ higher.heapBuffer.toNat
  memorySize : higher.memorySize.toNat + workingSetStride ≤ lower.memorySize.toNat
  windows : ∀ address ∈ lower.window, address ∉ higher.window

variable {index higher_index : Nat} {total : UInt64} {placement higher : WorkingSet}

theorem placed_isAt (inside : index * workingSetStride < total.toNat) :
    (placed index total).IsAt index total := by
  obtain ⟨heapBuffer, ends⟩ := placed_toNat inside
  exact ⟨heapBuffer, ends, by omega⟩

theorem IsAt.inside (isAt : placement.IsAt index total) : index * workingSetStride < total.toNat := by
  have heapBuffer := isAt.heapBuffer
  have ends := isAt.ends
  have nonempty := isAt.nonempty
  omega

/-- There is one such place. -/
theorem IsAt.eq_placed (isAt : placement.IsAt index total) : placement = placed index total := by
  obtain ⟨heapBuffer, ends⟩ := placed_toNat isAt.inside
  have same_heapBuffer : placement.heapBuffer.toNat = (placed index total).heapBuffer.toNat :=
    isAt.heapBuffer.trans heapBuffer.symm
  have same_memorySize : placement.memorySize.toNat = (placed index total).memorySize.toNat := by
    have placement_ends := isAt.ends
    omega
  obtain ⟨heap, size⟩ := placement
  obtain rfl : heap = _ := UInt64.toNat_inj.1 same_heapBuffer
  obtain rfl : size = _ := UInt64.toNat_inj.1 same_memorySize
  rfl

/-- A node has a working set exactly when its window begins inside the memory. -/
theorem exists_ofNode_iff :
    (∃ placement, ofNode index total = .ok placement) ↔ index * workingSetStride < total.toNat := by
  constructor
  · rintro ⟨placement, given⟩
    rw [ofNode] at given
    split at given
    · next inside => exact inside
    · cases given
  · exact fun inside => ⟨_, ofNode_of_lt inside⟩

/-- **A working set is where it should be, and there is one wherever one fits.** -/
theorem ofNode_eq_ok_iff : ofNode index total = .ok placement ↔ placement.IsAt index total := by
  constructor
  · intro given
    have inside := exists_ofNode_iff.1 ⟨placement, given⟩
    cases (ofNode_of_lt inside).symm.trans given
    exact placed_isAt inside
  · intro isAt
    rw [isAt.eq_placed]
    exact ofNode_of_lt isAt.inside

/-- **The checked operations on words compute the working set**: no product that does not fit a word and no
negative difference is ever taken for a result. -/
theorem ofNode_eq_ok_iff_words {index : UInt64} :
    ofNode index.toNat total = .ok placement ↔
      Word.mul index (UInt64.ofNat workingSetStride) = .ok placement.heapBuffer ∧
        placement.heapBuffer < total ∧
          Word.sub total placement.heapBuffer = .ok placement.memorySize := by
  have stride : (UInt64.ofNat workingSetStride).toNat = workingSetStride := rfl
  rw [ofNode_eq_ok_iff, Word.mul_eq_ok_iff, stride, UInt64.lt_iff_toNat_lt]
  constructor
  · intro isAt
    have ends := isAt.ends
    have nonempty := isAt.nonempty
    have below : placement.heapBuffer ≤ total := UInt64.le_iff_toNat_le.2 (by omega)
    refine ⟨isAt.heapBuffer.symm, by omega, ?_⟩
    rw [Word.sub_of_le below]
    refine congrArg Except.ok (UInt64.toNat_inj.1 ?_)
    rw [UInt64.toNat_sub_of_le _ _ below]
    omega
  · rintro ⟨product, below, difference⟩
    have le : placement.heapBuffer ≤ total := UInt64.le_iff_toNat_le.2 (Nat.le_of_lt below)
    rw [Word.sub_of_le le] at difference
    have rest := congrArg UInt64.toNat (Except.ok.inj difference)
    rw [UInt64.toNat_sub_of_le _ _ le] at rest
    exact ⟨product.symm, by omega, by omega⟩

/-- Nodes that follow each other are apart. -/
theorem IsAt.apart (isAt : placement.IsAt index total) (higher_isAt : higher.IsAt higher_index total)
    (before : index < higher_index) : placement.Apart higher := by
  have next : index * workingSetStride + workingSetStride ≤ higher_index * workingSetStride := by
    rw [← Nat.succ_mul]
    exact Nat.mul_le_mul_right _ before
  have stride : placement.heapBuffer.toNat + workingSetStride ≤ higher.heapBuffer.toNat := by
    rw [isAt.heapBuffer, higher_isAt.heapBuffer]
    exact next
  have ends := isAt.ends
  have higher_ends := higher_isAt.ends
  refine ⟨stride, by omega, fun address low high => ?_⟩
  have below := low.2
  have above := high.1
  omega

end WorkingSet

/-! ## The check of a configuration -/

namespace Settings

variable {settings : Settings}

/-- A configuration with nodes, cores, memory and a well-formed workload passes the check exactly when the
window of the last processing node begins inside the memory. -/
theorem check_eq_ok_iff_last (memoryNodes : settings.memory.nodes ≠ 0)
    (memory : settings.memory.totalBytes ≠ 0) (processingNodes : settings.compute.processingNodes ≠ 0)
    (cores : settings.compute.cores ≠ 0)
    (unblanked : ∀ name ∈ settings.compute.workload, ∀ character ∈ name.toList,
      Text.isBlank character = false) :
    settings.check = .ok () ↔
      (settings.compute.processingNodes.toNat - 1) * workingSetStride <
        settings.memory.totalBytes.toNat := by
  have passes : (settings.compute.workload.filter fun name => name.toList.any Text.isBlank) = none := by
    rw [Option.filter_eq_none_iff]
    intro name given blank
    obtain ⟨character, member, isBlank⟩ := List.any_eq_true.1 blank
    cases (unblanked name given character member).symm.trans isBlank
  rw [check, if_neg memoryNodes, if_neg memory, if_neg processingNodes, if_neg cores, passes]
  rw [← WorkingSet.exists_ofNode_iff, Attempt.map_eq_ok_iff]
  exact exists_congr fun placement => and_iff_left rfl

/-- **One check covers all working sets.**  A configuration with nodes, cores, memory and a workload without
white space passes the check exactly when every processing node has a working set.  The working sets are then
where they should be, any two of them at least one stride apart.  No index is so large that its working set is
computed wrongly. -/
theorem check_covers_workingSets (memoryNodes : settings.memory.nodes ≠ 0)
    (memory : settings.memory.totalBytes ≠ 0) (processingNodes : settings.compute.processingNodes ≠ 0)
    (cores : settings.compute.cores ≠ 0)
    (unblanked : ∀ name ∈ settings.compute.workload, ∀ character ∈ name.toList,
      Text.isBlank character = false) :
    let total := settings.memory.totalBytes
    let nodes := settings.compute.processingNodes.toNat
    (settings.check = .ok () ↔
        ∀ index < nodes, ∃ placement, WorkingSet.ofNode index total = .ok placement) ∧
      (settings.check = .ok () → ∃ placements : Nat → WorkingSet,
        (∀ index < nodes, WorkingSet.ofNode index total = .ok (placements index) ∧
          (placements index).IsAt index total) ∧
        ∀ lower higher, lower < higher → higher < nodes →
          (placements lower).Apart (placements higher)) ∧
      (∀ index placement, WorkingSet.ofNode index total = .ok placement ↔ placement.IsAt index total) ∧
      ∀ (index : UInt64) placement, WorkingSet.ofNode index.toNat total = .ok placement ↔
        Word.mul index (UInt64.ofNat workingSetStride) = .ok placement.heapBuffer ∧
          placement.heapBuffer < total ∧ Word.sub total placement.heapBuffer = .ok placement.memorySize := by
  intro total nodes
  have inhabited : 0 < nodes := Word.toNat_pos processingNodes
  have last := check_eq_ok_iff_last memoryNodes memory processingNodes cores unblanked
  -- The window of the last node is the highest one.
  have all : settings.check = .ok () ↔ ∀ index < nodes, index * workingSetStride < total.toNat := by
    refine last.trans ⟨fun inside index below => ?_, fun inside => inside _ (Nat.sub_one_lt_of_lt inhabited)⟩
    exact Nat.lt_of_le_of_lt (Nat.mul_le_mul_right _ (Nat.le_sub_one_of_lt below)) inside
  refine ⟨all.trans ?_, fun checked => ⟨fun index => .placed index total, ?_, ?_⟩,
    fun _ _ => WorkingSet.ofNode_eq_ok_iff, fun _ _ => WorkingSet.ofNode_eq_ok_iff_words⟩
  · exact forall₂_congr fun index _ => WorkingSet.exists_ofNode_iff.symm
  · intro index below
    have inside := all.1 checked index below
    exact ⟨WorkingSet.ofNode_of_lt inside, WorkingSet.placed_isAt inside⟩
  · intro lower higher before below
    have lower_isAt := WorkingSet.placed_isAt (all.1 checked lower (Nat.lt_trans before below))
    exact lower_isAt.apart (WorkingSet.placed_isAt (all.1 checked higher below)) before

/-- Three processing nodes in two strides and one byte: the last one gets the byte. -/
theorem check_covers_workingSets_lastByte : ∃ settings : Settings,
    settings = { memory := { totalBytes := 0x20001 }, compute := { processingNodes := 3 } } ∧
      (∀ index < 3, ∃ placement, WorkingSet.ofNode index 0x20001 = .ok placement) ∧
      settings.check = .ok () ∧ WorkingSet.ofNode 2 0x20001 = .ok ⟨0x20000, 1⟩ := by
  refine ⟨_, rfl, ?_⟩
  have unblanked : ∀ name ∈ (none : Option String), ∀ character ∈ name.toList,
      Text.isBlank character = false := fun _ given => nomatch given
  obtain ⟨covers, _, placed, _⟩ := @check_covers_workingSets
    { memory := { totalBytes := 0x20001 }, compute := { processingNodes := 3 } } (by decide) (by decide)
    (by decide) (by decide) unblanked
  refine ⟨covers.1 ?checked, ?checked, (placed 2 ⟨0x20000, 1⟩).2 ⟨rfl, rfl, Nat.le_refl 1⟩⟩
  exact (check_eq_ok_iff_last (by decide) (by decide) (by decide) (by decide) unblanked).2 (by decide)

end Settings

end MemoryFabric

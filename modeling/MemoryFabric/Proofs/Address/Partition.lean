import MemoryFabric.Address.Partition
import MemoryFabric.Proofs.Attempt
import Mathlib.Data.List.Forall2
import Mathlib.Tactic.Ring

/-!
# Partitions

A partition either is refused for the configuration, or gives one descriptor for each node.  The checks
before the arithmetic are enough for it: no step over- or underflows, and no range is reversed
(`interleavedDescriptor_of_fits`).
-/

namespace MemoryFabric

set_option autoImplicit false

/-- Where every step has a value, the values come in the order of the steps. -/
theorem mapM_of_forall {α β ε : Type} {step : α → Except ε β} {holds : α → β → Prop} {items : List α}
    (steps : ∀ item ∈ items, ∃ value, step item = .ok value ∧ holds item value) :
    ∃ values, items.mapM step = .ok values ∧ List.Forall₂ holds items values := by
  induction items with
  | nil => exact ⟨[], rfl, .nil⟩
  | cons first rest ih =>
      obtain ⟨⟨value, made, held⟩, rest_steps⟩ := List.forall_mem_cons.1 steps
      obtain ⟨values, rest_made, rest_held⟩ := ih rest_steps
      refine ⟨value :: values, ?_, .cons held rest_held⟩
      rw [List.mapM_cons, made, rest_made]
      rfl

theorem AddressRange.between_of_le {first last : UInt64} (ordered : first ≤ last) :
    AddressRange.between first last = .ok ⟨first, last, ordered⟩ := by
  simp [AddressRange.between, AddressRange.ofBounds?, ordered]

/-! ## Turns -/

/-- The descriptor has the first granule of the node up to its last, if all nodes have equally many. -/
structure NodeDescriptor.IsTurn (total granule : UInt64) (nodes node : Nat)
    (descriptor : NodeDescriptor) : Prop where
  node_eq : descriptor.node = node
  first : descriptor.range.first.toNat = node * granule.toNat
  last : descriptor.range.last.toNat = total.toNat - (nodes - node - 1) * granule.toNat - 1
  interleave : descriptor.interleave = some ⟨granule, UInt64.ofNat (granule.toNat * nodes)⟩

/-- The granules in front of a node, its own, and those behind it are one for each node. -/
theorem granules_around {nodes node : Nat} (inside : node < nodes) (granule : Nat) :
    node * granule + granule + (nodes - node - 1) * granule = granule * nodes := by
  obtain ⟨behind, rfl⟩ := Nat.exists_eq_add_of_lt inside
  have rest : node + behind + 1 - node - 1 = behind := by omega
  rw [rest]
  ring

/-- **A node that takes turns has a descriptor when every node can have one granule.** -/
theorem interleavedDescriptor_of_fits {total granule : UInt64} {nodes node : Nat}
    (positive : 0 < granule.toNat) (fits : granule.toNat * nodes ≤ total.toNat) (inside : node < nodes) :
    ∃ descriptor, interleavedDescriptor total granule (UInt64.ofNat (granule.toNat * nodes)) nodes node =
      .ok descriptor ∧ descriptor.IsTurn total granule nodes node := by
  have total_fits := Word.toNat_lt_count total
  have nodes_fit : nodes ≤ granule.toNat * nodes := Nat.le_mul_of_pos_left nodes positive
  have parts := granules_around inside granule.toNat
  have first_eq : Word.mul (UInt64.ofNat node) granule = .ok (UInt64.ofNat (node * granule.toNat)) :=
    Word.mul_ofNat (by omega) (by omega)
  have behind_eq : Word.mul (UInt64.ofNat (nodes - node - 1)) granule =
      .ok (UInt64.ofNat ((nodes - node - 1) * granule.toNat)) := Word.mul_ofNat (by omega) (by omega)
  have behind_toNat : (UInt64.ofNat ((nodes - node - 1) * granule.toNat)).toNat =
      (nodes - node - 1) * granule.toNat := Word.toNat_ofNat (by omega)
  have behind_le : UInt64.ofNat ((nodes - node - 1) * granule.toNat) ≤ total := by
    rw [UInt64.le_iff_toNat_le, behind_toNat]
    omega
  have end_toNat : (total - UInt64.ofNat ((nodes - node - 1) * granule.toNat)).toNat =
      total.toNat - (nodes - node - 1) * granule.toNat := by
    rw [UInt64.toNat_sub_of_le _ _ behind_le, behind_toNat]
  have end_ne : total - UInt64.ofNat ((nodes - node - 1) * granule.toNat) ≠ 0 := by
    intro zero
    rw [zero] at end_toNat
    have empty : (0 : UInt64).toNat = 0 := rfl
    omega
  have last_toNat := Word.toNat_sub_one end_ne
  have first_toNat : (UInt64.ofNat (node * granule.toNat)).toNat = node * granule.toNat :=
    Word.toNat_ofNat (by omega)
  have ordered : UInt64.ofNat (node * granule.toNat) ≤
      total - UInt64.ofNat ((nodes - node - 1) * granule.toNat) - 1 := by
    rw [UInt64.le_iff_toNat_le, last_toNat, end_toNat, first_toNat]
    omega
  refine ⟨⟨node, ⟨_, _, ordered⟩, some ⟨granule, UInt64.ofNat (granule.toNat * nodes)⟩⟩, ?_,
    rfl, first_toNat, ?_, rfl⟩
  · simp only [interleavedDescriptor, Word.fit_of_lt (show node < Word.count by omega),
      Word.fit_of_lt (show nodes - node - 1 < Word.count by omega), Attempt.ok_bind, first_eq, behind_eq,
      Word.sub_of_le behind_le, Word.sub_one_of_ne_zero end_ne, Attempt.checked,
      AddressRange.between_of_le ordered]
    rfl
  · rw [last_toNat, end_toNat]

theorem nodes_of_turns {total granule : UInt64} {nodes : Nat} {indices : List Nat}
    {descriptors : List NodeDescriptor}
    (turns : List.Forall₂ (NodeDescriptor.IsTurn total granule nodes) indices descriptors) :
    descriptors.map NodeDescriptor.node = indices := by
  induction turns with
  | nil => rfl
  | cons first _ ih => rw [List.map_cons, first.node_eq, ih]

/-- The smallest granule is a cache line. -/
theorem InterleavePolicy.le_granule? {policy : InterleavePolicy} {granule : UInt64}
    (turns : policy.granule? = some granule) : 64 ≤ granule.toNat := by
  cases policy <;> cases turns <;> decide

/-! ## Partitions -/

section Partitions

variable {total : UInt64} {nodes : Nat} {policy : InterleavePolicy}

/-- A partition among nodes that take turns. -/
theorem partition_of_fits {granule : UInt64} (inhabited : nodes ≠ 0) (memory : total ≠ 0)
    (turns : policy.granule? = some granule) (fits : granule.toNat * nodes ≤ total.toNat) :
    ∃ descriptors, partition total nodes policy = .ok descriptors ∧
      List.Forall₂ (NodeDescriptor.IsTurn total granule nodes) (List.range nodes) descriptors := by
  have steps := @mapM_of_forall _ _ _ (interleavedDescriptor total granule
    (UInt64.ofNat (granule.toNat * nodes)) nodes) (NodeDescriptor.IsTurn total granule nodes)
      (List.range nodes) fun node member => interleavedDescriptor_of_fits
        (Nat.lt_of_lt_of_le (by decide) (InterleavePolicy.le_granule? turns)) fits
          (List.mem_range.1 member)
  obtain ⟨descriptors, made, held⟩ := steps
  refine ⟨descriptors, ?_, held⟩
  rw [partition, if_neg inhabited, if_neg memory, turns]
  simp only [if_pos fits, made]

/-- A partition for a single node that owns everything. -/
theorem partition_of_none (memory : total ≠ 0) (alone : policy.granule? = none) :
    partition total 1 policy =
      .ok [⟨0, ⟨0, total - 1, UInt64.le_iff_toNat_le.2 (Nat.zero_le _)⟩, none⟩] := by
  have ordered : (0 : UInt64) ≤ total - 1 := UInt64.le_iff_toNat_le.2 (Nat.zero_le _)
  rw [partition, if_neg Nat.one_ne_zero, if_neg memory, alone]
  simp only [Word.sub_one_of_ne_zero memory, Attempt.checked, Attempt.ok_bind,
    AddressRange.between_of_le ordered]
  rfl

/-- **A partition is refused for the configuration, or gives the nodes in their order.** -/
theorem partition_cases (total : UInt64) (nodes : Nat) (policy : InterleavePolicy) :
    (∃ cause, partition total nodes policy = .error (.reported (.configuration cause))) ∨
      ∃ descriptors, partition total nodes policy = .ok descriptors ∧
        descriptors.map NodeDescriptor.node = List.range nodes := by
  by_cases inhabited : nodes = 0
  · exact .inl ⟨.noMemoryNodes, by rw [partition, if_pos inhabited]; rfl⟩
  by_cases memory : total = 0
  · exact .inl ⟨.noMemory, by rw [partition, if_neg inhabited, if_pos memory]; rfl⟩
  cases turns : policy.granule? with
  | none =>
      by_cases alone : nodes = 1
      · subst alone
        exact .inr ⟨_, partition_of_none memory turns, rfl⟩
      · refine .inl ⟨.ambiguousRouting nodes, ?_⟩
        rw [partition, if_neg inhabited, if_neg memory, turns]
        simp only [if_pos alone]
        rfl
  | some granule =>
      by_cases fits : granule.toNat * nodes ≤ total.toNat
      · obtain ⟨descriptors, made, held⟩ := partition_of_fits inhabited memory turns fits
        exact .inr ⟨descriptors, made, nodes_of_turns held⟩
      · refine .inl ⟨.tooManyNodes nodes granule total, ?_⟩
        rw [partition, if_neg inhabited, if_neg memory, turns]
        simp only [if_neg fits]
        rfl

/-- There are not many nodes: several nodes have at least a cache line each. -/
theorem nodes_le_of_partition {descriptors : List NodeDescriptor}
    (made : partition total nodes policy = .ok descriptors) : nodes = 1 ∨ 64 * nodes ≤ total.toNat := by
  rw [partition] at made
  split at made
  · cases made
  split at made
  · cases made
  split at made
  · split at made
    · cases made
    · next alone => exact .inl (not_not.1 alone)
  · next granule turns =>
      split at made
      · next fits =>
          exact .inr ((Nat.mul_le_mul_right nodes (InterleavePolicy.le_granule? turns)).trans fits)
      · cases made

end Partitions

end MemoryFabric

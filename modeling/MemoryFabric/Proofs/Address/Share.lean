import MemoryFabric.Proofs.Address.Remainder
import Mathlib.Data.Nat.Count
import Mathlib.Data.Set.Card
import Mathlib.Order.Interval.Finset.Nat

/-!
# How many addresses a node owns

Every stride has one granule of each node, so a node owns as many granules as there are strides
(`count_strides`).  The check of a partition accepts several nodes only when the space consists of whole strides
(`decodes_turns`), and then each node owns as much as any other (`ncard_owned`).
-/

namespace MemoryFabric

set_option autoImplicit false

/-! ## Counting turns -/

section Turns

variable {total granule nodes node : Nat} (granule_pos : 0 < granule) (below : node < nodes)

include granule_pos below

/-- In the first stride the node has its first granule. -/
theorem count_stride :
    Nat.count (fun address => address / granule % nodes = node) (granule * nodes) = granule := by
  have own : (Finset.range (granule * nodes)).filter (fun address => address / granule % nodes = node) =
      Finset.Ico (granule * node) (granule * node + granule) := by
    have inside : granule * node + granule ≤ granule * nodes := Nat.mul_le_mul_left granule below
    ext address
    rw [Finset.mem_filter, Finset.mem_range, Finset.mem_Ico]
    constructor
    · rintro ⟨first, rfl⟩
      rw [Nat.mod_eq_of_lt (Nat.div_lt_of_lt_mul first)]
      exact ⟨Nat.mul_div_le address granule, Nat.lt_mul_div_succ address granule_pos⟩
    · rintro ⟨behind, before⟩
      have turn : address / granule = node :=
        Nat.div_eq_of_lt_le (by rwa [Nat.mul_comm]) (by rwa [Nat.mul_comm, Nat.mul_succ])
      exact ⟨by omega, by rw [turn, Nat.mod_eq_of_lt below]⟩
  rw [Nat.count_eq_card_filter_range, own, Nat.card_Ico, Nat.add_sub_cancel_left]

/-- **Every stride adds a granule of each node.** -/
theorem count_strides (strides : Nat) :
    Nat.count (fun address => address / granule % nodes = node) (granule * nodes * strides) =
      granule * strides := by
  induction strides with
  | zero => rfl
  | succ strides ih =>
      have again : (fun offset => (granule * nodes * strides + offset) / granule % nodes = node) =
          fun offset => offset / granule % nodes = node := by
        funext offset
        rw [Nat.mul_assoc, Nat.mul_add_div granule_pos, Nat.mul_add_mod]
      rw [Nat.mul_succ, Nat.count_add, ih]
      simp only [again, count_stride granule_pos below, Nat.mul_succ]

/-- A space without a remainder is shared out evenly. -/
theorem count_turns (even : nodes = 1 ∨ granule * nodes ∣ total) :
    Nat.count (fun address => address / granule % nodes = node) total = total / nodes := by
  rcases even with rfl | ⟨strides, rfl⟩
  · obtain rfl : node = 0 := Nat.lt_one_iff.1 below
    simp only [Nat.mod_one, Nat.count_true, Nat.div_one]
  · have split : granule * nodes * strides = nodes * (granule * strides) := by
      rw [Nat.mul_comm granule nodes, Nat.mul_assoc]
    rw [count_strides granule_pos below, split, Nat.mul_div_cancel_left _ (Nat.zero_lt_of_lt below)]

end Turns

/-- Words are counted as numbers. -/
theorem ncard_words (total : UInt64) (holds : Nat → Prop) [DecidablePred holds] :
    {address : UInt64 | address < total ∧ holds address.toNat}.ncard = Nat.count holds total.toNat := by
  have numbers : UInt64.toNat '' {address : UInt64 | address < total ∧ holds address.toNat} =
      ((Finset.range total.toNat).filter holds : Set Nat) := by
    ext number
    rw [Finset.mem_coe, Finset.mem_filter, Finset.mem_range]
    constructor
    · rintro ⟨address, ⟨inside, held⟩, rfl⟩
      exact ⟨UInt64.lt_iff_toNat_lt.1 inside, held⟩
    · rintro ⟨inside, held⟩
      have same : (UInt64.ofNat number).toNat = number :=
        Word.toNat_ofNat (inside.trans (Word.toNat_lt_count total))
      exact ⟨UInt64.ofNat number, ⟨UInt64.lt_iff_toNat_lt.2 (same.symm ▸ inside), same.symm ▸ held⟩, same⟩
  have injective : Function.Injective UInt64.toNat := fun _ _ => UInt64.toNat_inj.1
  rw [Nat.count_eq_card_filter_range, ← Set.ncard_coe_finset, ← numbers,
    Set.ncard_image_of_injective _ injective]

/-! ## Accepted partitions -/

section Accepted

variable {total : UInt64} {nodes : Nat} {policy : InterleavePolicy} {descriptors : List NodeDescriptor}
  {decoder : AddressDecoder} (made : partition total nodes policy = .ok descriptors)
  (accepted : verifyCoverage total descriptors = .ok decoder)

include made accepted

/-- **The decoder of an accepted partition lets the nodes take turns in whole strides.**  A single node without
turns is one that takes every turn. -/
theorem decodes_turns :
    ∃ granule, 0 < granule ∧ (nodes = 1 ∨ granule * nodes ∣ total.toNat) ∧
      ∀ address < total, decoder.decode address = .ok (some (address.toNat / granule % nodes)) := by
  have ready := AddressDecoder.ofDescriptors_eq_ok_iff.2 (verifyCoverage_represents accepted)
  cases turns : policy.granule? with
  | none =>
      obtain ⟨memory, rfl, rfl⟩ := single_of_partition turns made
      cases ready.symm.trans (AddressDecoder.ofDescriptors_eq_ok_iff.2 (single_represents memory))
      refine ⟨1, Nat.one_pos, .inl rfl, fun address inside => ?_⟩
      rw [decode_single memory, if_neg (UInt64.not_le.2 inside), Nat.mod_one]
  | some granule =>
      have taken := turnsOf_partition turns made
      have kept := taken.exists_verifyCoverage_iff.1 ⟨decoder, accepted⟩
      refine ⟨granule.toNat, taken.granule_pos, ?_, fun address inside => ?_⟩
      · by_contra! remains
        obtain ⟨address, inside, _, lost⟩ := taken.exists_lost remains.1 remains.2
        exact kept address inside lost
      · rw [taken.decode_eq ready, if_neg (not_or.2 ⟨UInt64.not_le.2 inside, kept address inside⟩)]

/-- **Each node owns an equal share**, and nothing is left over. -/
theorem ncard_owned :
    (∀ node < nodes, {address | address < total ∧ decoder.decode address = .ok (some node)}.ncard =
      total.toNat / nodes) ∧ nodes ∣ total.toNat := by
  obtain ⟨granule, granule_pos, even, decodes⟩ := decodes_turns made accepted
  refine ⟨fun node below => ?_, ?_⟩
  · have owned : {address | address < total ∧ decoder.decode address = .ok (some node)} =
        {address : UInt64 | address < total ∧ address.toNat / granule % nodes = node} := by
      refine Set.ext fun address => and_congr_right fun inside => ?_
      rw [decodes address inside, Except.ok.injEq, Option.some.injEq]
    rw [owned, ncard_words total fun address => address / granule % nodes = node,
      count_turns granule_pos below even]
  · rcases even with rfl | whole
    · exact Nat.one_dvd _
    · exact (Nat.dvd_mul_left nodes granule).trans whole

end Accepted

end MemoryFabric

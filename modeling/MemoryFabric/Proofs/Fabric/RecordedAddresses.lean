import MemoryFabric.Fabric.Parameters
import MemoryFabric.Proofs.Address.Coverage
import MemoryFabric.Proofs.ByteSize.RoundTrip
import MemoryFabric.Proofs.Number.Numeral
import MemoryFabric.Proofs.SortedMap
import MemoryFabric.Proofs.Text.Skeleton

/-!
# Recorded addresses

The parameters of a memory controller say in texts which addresses its node owns: the ends of its range in
decimal digits, the granule and the stride as sizes.  A reader of these texts finds exactly the addresses
that the descriptor of the node claims (`Table.claim_memoryController_iff`).
-/

namespace MemoryFabric

set_option autoImplicit false

/-! ## Reading parameters -/

namespace Parameters

/-- The address that a parameter holds in decimal digits. -/
def address? (parameters : Parameters) (name : String) : Option UInt64 :=
  match parameters.get? name with
  | some (.text digits) => Number.word? 10 digits.toList
  | _ => none

/-- The size that a parameter holds as text. -/
def size? (parameters : Parameters) (name : String) : Option UInt64 :=
  match parameters.get? name with
  | some (.text size) => (ByteSize.read size).toOption
  | _ => none

/-- The turns that the parameters describe, if they describe any, include an address. -/
def InTurn (parameters : Parameters) (first address : UInt64) : Prop :=
  (parameters.get? "interleave_size" = none ∧ parameters.get? "interleave_step" = none) ∨
    ∃ size step, size? parameters "interleave_size" = some size ∧
      size? parameters "interleave_step" = some step ∧
        (address.toNat - first.toNat) % step.toNat < size.toNat

/-- The parameters claim an address: it lies between the ends of the range, and in a turn. -/
def Claim (parameters : Parameters) (address : UInt64) : Prop :=
  ∃ first last, address? parameters "addr_range_start" = some first ∧
    address? parameters "addr_range_end" = some last ∧ first ≤ address ∧ address ≤ last ∧
      InTurn parameters first address

end Parameters

/-! ## Turns -/

/-- Whether it is the turn of a node can be told from its first granule on. -/
theorem offset_in_turn_iff {address node granule nodes : Nat} (positive : 0 < granule)
    (inside : node < nodes) (behind : node * granule ≤ address) :
    (address - node * granule) % (granule * nodes) < granule ↔ address / granule % nodes = node := by
  have turn : (address - node * granule) / granule = address / granule - node := by
    rw [Nat.mul_comm, Nat.sub_mul_div_of_le _ _ _ (by rwa [Nat.mul_comm])]
  have reached : node ≤ address / granule := (Nat.le_div_iff_mul_le positive).2 behind
  have small := Nat.mod_lt (address - node * granule) positive
  rw [Nat.mod_mul, turn]
  constructor
  · intro below
    have whole : (address / granule - node) % nodes = 0 := by
      by_contra partly
      have more := Nat.le_mul_of_pos_right granule (Nat.pos_of_ne_zero partly)
      omega
    have rounds := Nat.div_add_mod (address / granule - node) nodes
    have split : address / granule = nodes * ((address / granule - node) / nodes) + node := by omega
    rw [split, Nat.mul_add_mod, Nat.mod_eq_of_lt inside]
  · intro mine
    have whole : (address / granule - node) % nodes = 0 :=
      Nat.sub_mod_eq_zero_of_mod_eq (by rw [mine, Nat.mod_eq_of_lt inside])
    rw [whole, Nat.mul_zero, Nat.add_zero]
    exact small

/-- With turns, the range of the descriptor begins with the first granule of its node. -/
def NodeDescriptor.BeginsWithTurn (nodes : Nat) (descriptor : NodeDescriptor) : Prop :=
  ∀ interleave, descriptor.interleave = some interleave → interleave.granule ≠ 0 ∧
    interleave.granule.toNat * nodes = interleave.stride.toNat ∧
      descriptor.range.first.toNat = descriptor.node * interleave.granule.toNat

/-! ## The parameters of a controller -/

namespace Table

variable {settings : Settings} {descriptor : NodeDescriptor}

theorem quiet_get? {name : String} {level : UInt64}
    (other : name ∉ ["debug", "debug_level", "debug_addr"]) :
    SortedMap.get? (quiet level) name = none :=
  SortedMap.get?_insertAll_of_not_mem other

theorem interleaving_keys {interleave : Option Interleave} {name : String}
    (other : name ∉ ["interleave_size", "interleave_step"]) :
    name ∉ (interleaving interleave).map Prod.fst := by
  cases interleave with
  | none => exact List.not_mem_nil
  | some interleave => exact other

/-- The ends of the range are recorded in decimal digits. -/
theorem memoryController_range {name : String} {address : UInt64}
    (known : (name, address) ∈
      [("addr_range_start", descriptor.range.first), ("addr_range_end", descriptor.range.last)]) :
    (memoryController settings descriptor).get? name = some (.text (toString address.toNat)) := by
  rcases List.mem_pair.1 known with same | same
  all_goals
    obtain ⟨rfl, rfl⟩ := Prod.mk.inj same
    rw [memoryController, SortedMap.get?_extend, quiet_get? (by simp), Option.none_or,
      SortedMap.get?_insertAll_of_not_mem (interleaving_keys (by simp))]
    exact SortedMap.get?_insertAll_of_mem (by simp) (by simp)

/-- Granule and stride are recorded as sizes, if there are turns. -/
theorem memoryController_turns {name : String} {size : Interleave → UInt64}
    (known : (name, size) ∈
      [("interleave_size", Interleave.granule), ("interleave_step", Interleave.stride)]) :
    (memoryController settings descriptor).get? name =
      descriptor.interleave.map fun interleave => .text (ByteSize.written (size interleave)) := by
  rcases List.mem_pair.1 known with same | same
  all_goals
    obtain ⟨rfl, rfl⟩ := Prod.mk.inj same
    rw [memoryController, SortedMap.get?_extend, quiet_get? (by simp), Option.none_or]
    cases descriptor.interleave with
    | none =>
        rw [SortedMap.get?_insertAll_of_not_mem (by simp [interleaving]), ofList, SortedMap.ofList,
          SortedMap.get?_insertAll_of_not_mem (by simp)]
        rfl
    | some interleave =>
        exact SortedMap.get?_insertAll_of_mem (by simp [interleaving]) (by simp [interleaving])

theorem address?_toString {parameters : Parameters} {name : String} {word : UInt64}
    (found : parameters.get? name = some (.text (toString word.toNat))) :
    Parameters.address? parameters name = some word := by
  have digits : (toString word.toNat).toList = Nat.toDigits 10 word.toNat := by simp
  rw [Parameters.address?, found]
  simp only [digits, Number.word?_toDigits]

theorem size?_written {parameters : Parameters} {name : String} {word : UInt64}
    (found : parameters.get? name = some (.text (ByteSize.written word))) :
    Parameters.size? parameters name = some word := by
  rw [Parameters.size?, found]
  simp only [ByteSize.read_written]
  rfl

section Claims

variable {nodes : Nat} {address : UInt64} (inside : descriptor.node < nodes)
  (turns : descriptor.BeginsWithTurn nodes)

include inside turns

/-- The recorded sizes tell the turns of the node. -/
theorem inTurn_memoryController_iff (behind : descriptor.range.first ≤ address) :
    Parameters.InTurn (memoryController settings descriptor) descriptor.range.first address ↔
      ∀ interleave, descriptor.interleave = some interleave →
        interleave.owner nodes address = descriptor.node := by
  have granule := @memoryController_turns settings descriptor _ _ List.mem_cons_self
  have stride := @memoryController_turns settings descriptor _ _
    (List.mem_cons_of_mem _ List.mem_cons_self)
  cases taken : descriptor.interleave with
  | none =>
      rw [taken] at granule stride
      exact ⟨fun _ => nofun, fun _ => .inl ⟨granule, stride⟩⟩
  | some interleave =>
      obtain ⟨nonzero, stride_eq, first_eq⟩ := turns interleave taken
      rw [taken] at granule stride
      rw [UInt64.le_iff_toNat_le, first_eq] at behind
      have offset := offset_in_turn_iff (Word.toNat_pos nonzero) inside behind
      rw [← first_eq, stride_eq] at offset
      constructor
      · rintro (⟨absent, _⟩ | ⟨size, step, size_eq, step_eq, within⟩)
        · cases granule.symm.trans absent
        · cases (size?_written granule).symm.trans size_eq
          cases (size?_written stride).symm.trans step_eq
          rintro _ ⟨⟩
          exact offset.1 within
      · exact fun mine => .inr ⟨_, _, size?_written granule, size?_written stride,
          offset.2 (mine interleave rfl)⟩

/-- **A reader of the recorded texts finds the addresses of the descriptor.** -/
theorem claim_memoryController_iff :
    Parameters.Claim (memoryController settings descriptor) address ↔
      descriptor.Claims nodes address := by
  have first := address?_toString
    (@memoryController_range settings descriptor _ _ List.mem_cons_self)
  have last := address?_toString
    (@memoryController_range settings descriptor _ _ (List.mem_cons_of_mem _ List.mem_cons_self))
  rw [Parameters.Claim, NodeDescriptor.Claims]
  constructor
  · rintro ⟨start, stop, start_eq, stop_eq, behind, before, turn⟩
    cases first.symm.trans start_eq
    cases last.symm.trans stop_eq
    exact ⟨⟨behind, before⟩, (inTurn_memoryController_iff inside turns behind).1 turn⟩
  · rintro ⟨⟨behind, before⟩, turn⟩
    exact ⟨_, _, first, last, behind, before, (inTurn_memoryController_iff inside turns behind).2 turn⟩

end Claims

end Table

end MemoryFabric

import MemoryFabric.Address.Coverage
import MemoryFabric.Proofs.Attempt
import Mathlib.Data.List.Basic
import Mathlib.Order.Basic

/-!
# Ranges without turns

Without turns the check of a partition sorts the ranges by their first addresses and follows them from
the address 0.  It succeeds exactly when every address of the space lies in one range, provided that no
range goes past the end (`checkTiling_eq_ok_iff`).

The induction runs along the sorted ranges.  What it carries is the number of ranges that hold an address:
it is 1 from the next address on up to the end of the space, and 0 elsewhere.
-/

namespace MemoryFabric.Coverage

set_option autoImplicit false

instance (address : UInt64) (range : AddressRange) : Decidable (address ∈ range) :=
  decidable_of_iff (range.contains address = true) AddressRange.contains_iff_mem

theorem mem_range_iff {address : UInt64} {range : AddressRange} :
    address ∈ range ↔
      range.first.toNat ≤ address.toNat ∧ address.toNat ≤ range.last.toNat := by
  rw [← UInt64.le_iff_toNat_le, ← UInt64.le_iff_toNat_le]
  exact Iff.rfl

/-- The number of descriptors whose range holds an address. -/
def holders (descriptors : List NodeDescriptor) (address : UInt64) : Nat :=
  descriptors.countP fun descriptor => descriptor.range.contains address

/-- Ranges follow one another without a hole, from `next` up to the address in front of `stop`. -/
inductive Follows : UInt64 → List NodeDescriptor → UInt64 → Prop where
  | nil (next : UInt64) : Follows next [] next
  | cons {descriptor : NodeDescriptor} {rest : List NodeDescriptor} {stop : UInt64}
      (tail : Follows (Word.wrappingSucc descriptor.range.last) rest stop) :
      Follows descriptor.range.first (descriptor :: rest) stop

/-- A range that begins behind the next address has an address in front of it. -/
theorem follow_cons {next : UInt64} {before : Option Nat} {descriptor : NodeDescriptor}
    {rest : List NodeDescriptor} :
    follow next before (descriptor :: rest) =
      if descriptor.range.first = next then
        follow (Word.wrappingSucc descriptor.range.last) (some descriptor.node) rest
      else if descriptor.range.first < next then
        Attempt.report (.overlap before descriptor.node descriptor.range)
      else Attempt.report (.hole before descriptor.node next (descriptor.range.first - 1)) := by
  rw [follow]
  by_cases joined : descriptor.range.first = next
  · rw [if_pos joined, if_pos joined]
  · rw [if_neg joined, if_neg joined]
    by_cases overlaps : descriptor.range.first < next
    · rw [if_pos overlaps, if_pos overlaps]
    · have nonzero : descriptor.range.first ≠ 0 := by
        intro zero
        refine joined (UInt64.le_antisymm ?_ (UInt64.not_lt.1 overlaps))
        rw [zero, UInt64.le_iff_toNat_le]
        exact Nat.zero_le _
      rw [if_neg overlaps, if_neg overlaps, Word.sub_one_of_ne_zero nonzero]
      rfl

theorem follow_eq_ok_iff {next stop : UInt64} {before : Option Nat}
    {descriptors : List NodeDescriptor} :
    (∃ after, follow next before descriptors = .ok (stop, after)) ↔
      Follows next descriptors stop := by
  induction descriptors generalizing next before with
  | nil =>
      constructor
      · rintro ⟨after, ends⟩
        cases ends
        exact .nil _
      · intro follows
        cases follows with
        | nil => exact ⟨before, rfl⟩
  | cons descriptor rest ih =>
      constructor
      · rintro ⟨after, ends⟩
        rw [follow_cons] at ends
        split at ends
        · next joined =>
            subst joined
            exact .cons (ih.1 ⟨after, ends⟩)
        · split at ends <;> cases ends
      · intro follows
        cases follows with
        | cons tail =>
            obtain ⟨after, ends⟩ := ih.2 tail
            exact ⟨after, by rw [follow_cons, if_pos rfl]; exact ends⟩

/-! ## Counting holders -/

theorem holders_cons {descriptor : NodeDescriptor} {rest : List NodeDescriptor} {address : UInt64} :
    holders (descriptor :: rest) address =
      (if address ∈ descriptor.range then 1 else 0) + holders rest address := by
  rw [holders, List.countP_cons, Nat.add_comm]
  simp [holders]

theorem holders_pos_of_mem {descriptors : List NodeDescriptor} {descriptor : NodeDescriptor}
    (member : descriptor ∈ descriptors) {address : UInt64} (holds : address ∈ descriptor.range) :
    0 < holders descriptors address :=
  List.countP_pos_iff.2 ⟨descriptor, member, AddressRange.contains_iff_mem.2 holds⟩

theorem first_mem (range : AddressRange) : range.first ∈ range :=
  ⟨UInt64.le_refl _, range.ordered⟩

theorem countP_eq_one_iff {α : Type} {test : α → Bool} {list : List α} :
    list.countP test = 1 ↔
      ∃ position : Fin list.length, ∀ other, test (list.get other) = true ↔ other = position := by
  induction list with
  | nil => simp
  | cons head tail ih =>
      rw [List.countP_cons]
      by_cases holds : test head = true
      · rw [if_pos holds, Nat.add_eq_right, List.countP_eq_zero]
        constructor
        · intro no_more
          refine ⟨0, Fin.cases ?_ fun later => ?_⟩
          · exact iff_of_true holds rfl
          · exact iff_of_false (no_more _ (List.get_mem tail later)) (Fin.succ_ne_zero later)
        · rintro ⟨position, only⟩ element member found
          obtain ⟨later, rfl⟩ := List.mem_iff_get.1 member
          have head_position := (only 0).1 holds
          have later_position := (only later.succ).1 found
          exact Fin.succ_ne_zero later (later_position.trans head_position.symm)
      · rw [if_neg holds, Nat.add_zero, ih]
        constructor
        · rintro ⟨position, only⟩
          refine ⟨position.succ, Fin.cases ?_ fun later => ?_⟩
          · exact iff_of_false holds (Fin.succ_ne_zero position).symm
          · exact (only later).trans Fin.succ_inj.symm
        · rintro ⟨position, only⟩
          cases position using Fin.cases with
          | zero => exact absurd ((only 0).2 rfl) holds
          | succ position => exact ⟨position, fun later => (only later.succ).trans Fin.succ_inj⟩

/-- One holder is one position in the list. -/
theorem holders_eq_one_iff {descriptors : List NodeDescriptor} {address : UInt64} :
    holders descriptors address = 1 ↔
      ∃ position : Fin descriptors.length,
        ∀ other, address ∈ (descriptors.get other).range ↔ other = position := by
  simp only [holders, countP_eq_one_iff, AddressRange.contains_iff_mem]

section Tiling

variable {next stop bound total : UInt64} {descriptors : List NodeDescriptor}

/-- Ranges that follow one another hold each address between the ends once. -/
theorem Follows.holders_eq (follows : Follows next descriptors stop)
    (inside : ∀ descriptor ∈ descriptors, descriptor.range.last < bound) :
    next ≤ stop ∧
      ∀ address, holders descriptors address = if next ≤ address ∧ address < stop then 1 else 0 := by
  induction follows with
  | nil next =>
      refine ⟨UInt64.le_refl _, fun address => ?_⟩
      rw [if_neg fun between => UInt64.lt_irrefl _ (UInt64.lt_of_le_of_lt between.1 between.2)]
      rfl
  | @cons descriptor rest stop tail ih =>
      obtain ⟨below, inside⟩ := List.forall_mem_cons.1 inside
      obtain ⟨ends, once⟩ := ih inside
      have next_toNat := Word.toNat_wrappingSucc below
      have ordered := UInt64.le_iff_toNat_le.1 descriptor.range.ordered
      rw [UInt64.le_iff_toNat_le, next_toNat] at ends
      refine ⟨UInt64.le_iff_toNat_le.2 (by omega), fun address => ?_⟩
      rw [holders_cons, once]
      simp only [mem_range_iff, UInt64.le_iff_toNat_le, UInt64.lt_iff_toNat_lt, next_toNat]
      split <;> split <;> split <;> omega

/-- Sorted ranges that hold each address between two ends once follow one another. -/
theorem follows_of_holders
    (sorted : descriptors.Pairwise fun a b => a.range.first ≤ b.range.first)
    (inside : ∀ descriptor ∈ descriptors, descriptor.range.last < stop) (ends : next ≤ stop)
    (once : ∀ address,
      holders descriptors address = if next ≤ address ∧ address < stop then 1 else 0) :
    Follows next descriptors stop := by
  induction descriptors generalizing next with
  | nil =>
      have reached : next = stop := by
        by_contra different
        have before := UInt64.lt_of_le_of_ne ends different
        have held := once next
        rw [if_pos ⟨UInt64.le_refl _, before⟩] at held
        cases held
      subst reached
      exact .nil next
  | cons descriptor rest ih =>
      obtain ⟨least, sorted⟩ := List.pairwise_cons.1 sorted
      obtain ⟨below, inside_rest⟩ := List.forall_mem_cons.1 inside
      have bounds : ∀ other ∈ descriptor :: rest, next ≤ other.range.first := by
        intro other member
        have held := holders_pos_of_mem member (first_mem other.range)
        rw [once] at held
        split at held
        · next between => exact between.1
        · cases held
      have next_lt : next < stop := by
        refine UInt64.lt_of_le_of_lt (bounds descriptor List.mem_cons_self) ?_
        exact UInt64.lt_of_le_of_lt descriptor.range.ordered below
      -- Some range holds the next address, and the sorted head does not begin behind it.
      obtain ⟨holder, member, holds⟩ :
          ∃ other ∈ descriptor :: rest, other.range.contains next = true := by
        refine List.countP_pos_iff.1 ?_
        show 0 < holders (descriptor :: rest) next
        rw [once, if_pos ⟨UInt64.le_refl _, next_lt⟩]
        exact Nat.one_pos
      have begins : descriptor.range.first ≤ holder.range.first := by
        rcases List.mem_cons.1 member with rfl | later
        · exact UInt64.le_refl _
        · exact least holder later
      have first_eq : next = descriptor.range.first :=
        UInt64.le_antisymm (bounds descriptor List.mem_cons_self)
          (UInt64.le_trans begins (AddressRange.contains_iff_mem.1 holds).1)
      subst first_eq
      have next_toNat := Word.toNat_wrappingSucc below
      have last_lt := UInt64.lt_iff_toNat_lt.1 below
      have ordered := UInt64.le_iff_toNat_le.1 descriptor.range.ordered
      refine .cons (ih sorted inside_rest ?_ fun address => ?_)
      · rw [UInt64.le_iff_toNat_le, next_toNat]
        exact last_lt
      · have held := once address
        rw [holders_cons] at held
        simp only [mem_range_iff, UInt64.le_iff_toNat_le, UInt64.lt_iff_toNat_lt, next_toNat] at held ⊢
        split at held <;> split at held <;> split <;> omega

theorem byFirst_perm : (byFirst descriptors).Perm descriptors := List.mergeSort_perm _ _

theorem byFirst_sorted :
    (byFirst descriptors).Pairwise fun a b => a.range.first ≤ b.range.first := by
  have transitive : ∀ a b c : NodeDescriptor, decide (a.range.first ≤ b.range.first) = true →
      decide (b.range.first ≤ c.range.first) = true →
        decide (a.range.first ≤ c.range.first) = true := by
    intro a b c first second
    exact decide_eq_true (UInt64.le_trans (of_decide_eq_true first) (of_decide_eq_true second))
  have total : ∀ a b : NodeDescriptor, (decide (a.range.first ≤ b.range.first) ||
      decide (b.range.first ≤ a.range.first)) = true := by
    intro a b
    simpa using UInt64.le_total a.range.first b.range.first
  exact (List.pairwise_mergeSort transitive total descriptors).imp fun before =>
    of_decide_eq_true before

theorem checkTiling_eq_ok_iff_follows {last : UInt64} :
    checkTiling total last descriptors = .ok () ↔ Follows 0 (byFirst descriptors) total := by
  rw [← @follow_eq_ok_iff _ _ none, checkTiling]
  cases follow 0 none (byFirst descriptors) with
  | error => simp
  | ok ends =>
      obtain ⟨next, after⟩ := ends
      by_cases reached : next = total
      · simp [reached, pure, Except.pure]
      · simp [reached]

/-- **Ranges inside the space tile it exactly when every address lies in one of them.** -/
theorem checkTiling_eq_ok_iff {last : UInt64}
    (inside : ∀ descriptor ∈ descriptors, descriptor.range.last < total) :
    checkTiling total last descriptors = .ok () ↔
      ∀ address < total, holders descriptors address = 1 := by
  have same : ∀ address, holders (byFirst descriptors) address = holders descriptors address :=
    fun address => byFirst_perm.countP_eq _
  have inside' : ∀ descriptor ∈ byFirst descriptors, descriptor.range.last < total :=
    fun descriptor member => inside descriptor (byFirst_perm.mem_iff.1 member)
  have zero_le : ∀ address : UInt64, 0 ≤ address := fun address =>
    UInt64.le_iff_toNat_le.2 (Nat.zero_le _)
  rw [checkTiling_eq_ok_iff_follows]
  constructor
  · intro follows address before
    rw [← same, (follows.holders_eq inside').2, if_pos ⟨zero_le address, before⟩]
  · intro once
    refine follows_of_holders byFirst_sorted inside' (zero_le total) fun address => ?_
    rw [same]
    by_cases before : address < total
    · rw [once address before, if_pos ⟨zero_le address, before⟩]
    · rw [if_neg fun between => before between.2]
      refine List.countP_eq_zero.2 fun descriptor member holds => before ?_
      exact UInt64.lt_of_le_of_lt (AddressRange.contains_iff_mem.1 holds).2 (inside descriptor member)

end Tiling

end MemoryFabric.Coverage

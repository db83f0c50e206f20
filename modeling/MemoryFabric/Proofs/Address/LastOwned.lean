import MemoryFabric.Proofs.Address.Decoding

/-!
# The last address of a node

When nodes take turns, the last turn of a node is the last turn of the space, less the turns of the nodes
behind it.  The last address of the node is the end of that turn, or the end of the space when the space
ends inside the turn (`Represents.lastOwned_spec`).  Main statement: **`lastOwned_isGreatest`**, for every
granule and size; a product past the largest word is cut off, and changes nothing.
-/

namespace MemoryFabric

set_option autoImplicit false

/-! ## Counting turns -/

/-- The last turn of a node up to a turn that is not before its first one. -/
def lastTurnOf (nodes node turn : Nat) : Nat := turn - (turn - node) % nodes

/-- The last address of a node in a space of `total` bytes that reaches the node's first turn. -/
def lastAddressOf (total granule nodes node : Nat) : Nat :=
  min ((lastTurnOf nodes node ((total - 1) / granule) + 1) * granule - 1) (total - 1)

section Turns

variable {total granule nodes node turn : Nat}

theorem lastTurnOf_le : lastTurnOf nodes node turn ≤ turn := Nat.sub_le _ _

theorem lastTurnOf_eq (reached : node ≤ turn) :
    lastTurnOf nodes node turn = node + nodes * ((turn - node) / nodes) := by
  have split := Nat.div_add_mod (turn - node) nodes
  have small := Nat.mod_le (turn - node) nodes
  rw [lastTurnOf]
  omega

theorem lastTurnOf_mod (below : node < nodes) (reached : node ≤ turn) :
    lastTurnOf nodes node turn % nodes = node := by
  rw [lastTurnOf_eq reached, Nat.add_mul_mod_self_left, Nat.mod_eq_of_lt below]

theorem le_lastTurnOf {other : Nat} (before : other ≤ turn) (owned : other % nodes = node) :
    other ≤ lastTurnOf nodes node turn := by
  have whole := Nat.div_add_mod other nodes
  have small := Nat.mod_le other nodes
  have fewer : other / nodes ≤ (turn - node) / nodes := by
    rcases Nat.eq_zero_or_pos nodes with rfl | positive
    · simp
    · rw [Nat.le_div_iff_mul_le positive, Nat.mul_comm]
      omega
  have scaled := Nat.mul_le_mul_left nodes fewer
  rw [lastTurnOf_eq (by omega)]
  omega

theorem lastAddressOf_lt (positive : 0 < total) : lastAddressOf total granule nodes node < total := by
  rw [lastAddressOf]
  omega

theorem lastAddressOf_div (granule_pos : 0 < granule) :
    lastAddressOf total granule nodes node / granule =
      lastTurnOf nodes node ((total - 1) / granule) := by
  have begun : lastTurnOf nodes node ((total - 1) / granule) * granule ≤
      (total - 1) / granule * granule := Nat.mul_le_mul_right granule lastTurnOf_le
  have inside := Nat.div_mul_le_self (total - 1) granule
  rw [lastAddressOf]
  refine Nat.div_eq_of_lt_le ?_ ?_
  · rw [Nat.add_mul]
    omega
  · rw [Nat.add_mul]
    omega

theorem lastAddressOf_owned (granule_pos : 0 < granule) (below : node < nodes)
    (reached : node ≤ (total - 1) / granule) :
    lastAddressOf total granule nodes node / granule % nodes = node := by
  rw [lastAddressOf_div granule_pos, lastTurnOf_mod below reached]

theorem le_lastAddressOf {address : Nat} (granule_pos : 0 < granule) (inside : address < total)
    (owned : address / granule % nodes = node) :
    address ≤ lastAddressOf total granule nodes node := by
  have turn : address / granule ≤ (total - 1) / granule := Nat.div_le_div_right (by omega)
  have last := le_lastTurnOf turn owned
  have ended : address < (lastTurnOf nodes node ((total - 1) / granule) + 1) * granule :=
    (Nat.div_lt_iff_lt_mul granule_pos).1 (Nat.lt_succ_of_le last)
  rw [lastAddressOf]
  omega

end Turns

/-! ## The computation in words -/

/-- The end of a turn, or the end of the space: a product past the largest word is cut off behind it. -/
theorem endOfTurn_eq {turns granule last : UInt64} (some_turns : 0 < turns.toNat)
    (granule_pos : 0 < granule.toNat) (last_lt : last.toNat + 1 < Word.count) :
    (do return some (min (← Word.sub (Word.saturatingMul turns granule) 1) last)) =
      (.ok (some (UInt64.ofNat (min (turns.toNat * granule.toNat - 1) last.toNat))) :
        Except Fault (Option UInt64)) := by
  have positive : 0 < turns.toNat * granule.toNat := Nat.mul_pos some_turns granule_pos
  have toNat_min : ∀ bound : UInt64, (min bound last).toNat = min bound.toNat last.toNat := by
    intro bound
    show (if bound ≤ last then bound else last).toNat = _
    split
    · next le => rw [Nat.min_eq_left (UInt64.le_iff_toNat_le.1 le)]
    · next lt => rw [Nat.min_eq_right (UInt64.lt_iff_toNat_lt.1 (UInt64.not_le.1 lt)).le]
  obtain ⟨bound, ended, bounded⟩ : ∃ bound,
      Word.sub (Word.saturatingMul turns granule) 1 = .ok bound ∧
        min bound.toNat last.toNat = min (turns.toNat * granule.toNat - 1) last.toNat := by
    by_cases fits : turns.toNat * granule.toNat < Word.count
    · have product : (turns * granule).toNat = turns.toNat * granule.toNat := by
        rw [UInt64.toNat_mul]
        exact Nat.mod_eq_of_lt fits
      have nonzero : turns * granule ≠ 0 := by
        intro zero
        rw [zero] at product
        exact positive.ne product
      rw [Word.saturatingMul, if_pos fits]
      exact ⟨_, Word.sub_one_of_ne_zero nonzero, by rw [Word.toNat_sub_one nonzero, product]⟩
    · have greatest : (Word.greatest - 1).toNat = Word.count - 2 := by decide
      rw [Word.saturatingMul, if_neg fits]
      exact ⟨_, Word.sub_one_of_ne_zero (by decide), by omega⟩
  rw [ended, ← bounded, ← toNat_min, UInt64.ofNat_toNat]
  rfl

/-- The last turn of a node, counted back from a turn that is not before its first one. -/
theorem toNat_lastTurn {nodes node turn : UInt64} (reached : node ≤ turn) :
    (turn - node) % nodes ≤ turn ∧
      (turn - (turn - node) % nodes).toNat = lastTurnOf nodes.toNat node.toNat turn.toNat := by
  have behind : ((turn - node) % nodes).toNat = (turn.toNat - node.toNat) % nodes.toNat := by
    rw [UInt64.toNat_mod, UInt64.toNat_sub_of_le _ _ reached]
  have behind_le : (turn - node) % nodes ≤ turn := by
    rw [UInt64.le_iff_toNat_le, behind]
    exact (Nat.mod_le _ _).trans (Nat.sub_le _ _)
  refine ⟨behind_le, ?_⟩
  rw [UInt64.toNat_sub_of_le _ _ behind_le, behind, lastTurnOf]

namespace AddressDecoder

/-- An address is the last one in front of `total` whose turn is a node's. -/
def IsLastOwned (total : UInt64) (interleave : Interleave) (nodes node : Nat)
    (address : UInt64) : Prop :=
  IsGreatest {a : UInt64 | a < total ∧ interleave.owner nodes a = node} address

namespace Represents

variable {decoder : AddressDecoder} {total : UInt64} {descriptors : List NodeDescriptor}

theorem granule_pos (represents : decoder.Represents total descriptors) {interleave : Interleave}
    (turns : decoder.interleave = some interleave) : 0 < interleave.granule.toNat :=
  Word.toNat_pos (represents.turns interleave turns).1

/-- No step of the computation faults. -/
theorem lastOwned_eq (represents : decoder.Represents total descriptors)
    {interleave : Interleave} (turns : decoder.interleave = some interleave) {node : Nat}
    (below : node < descriptors.length) :
    decoder.lastOwned node interleave.granule =
      .ok (if (total.toNat - 1) / interleave.granule.toNat < node then none
        else some (UInt64.ofNat
          (lastAddressOf total.toNat interleave.granule.toNat descriptors.length node))) := by
  have fits := represents.length_lt_count turns
  have node_toNat := Word.toNat_ofNat (below.trans fits)
  have last_toNat := Word.toNat_sub_one represents.memory
  have total_lt := Word.toNat_lt_count total
  have lastTurn_toNat : ((total - 1) / interleave.granule).toNat =
      (total.toNat - 1) / interleave.granule.toNat := by
    rw [UInt64.toNat_div, last_toNat]
  have lastTurn_le : (total.toNat - 1) / interleave.granule.toNat ≤ total.toNat - 1 :=
    Nat.div_le_self _ _
  have length_ne := represents.ofNat_length_ne_zero turns
  simp only [lastOwned, represents.total_eq, Word.sub_one_of_ne_zero represents.memory,
    Word.fit_of_lt (below.trans fits), Word.div_of_ne_zero (represents.turns interleave turns).1,
    represents.nodeCount_eq, Word.fit_of_lt fits, Word.rem_of_ne_zero length_ne, Attempt.ok_bind]
  by_cases unreached : (total - 1) / interleave.granule < UInt64.ofNat node
  · have before := UInt64.lt_iff_toNat_lt.1 unreached
    rw [lastTurn_toNat, node_toNat] at before
    simp only [if_pos unreached, if_pos before]
    rfl
  · have after := UInt64.not_lt.1 unreached
    have reached := UInt64.le_iff_toNat_le.1 after
    rw [lastTurn_toNat, node_toNat] at reached
    obtain ⟨rest_le, turn_toNat⟩ := @toNat_lastTurn (UInt64.ofNat descriptors.length) _ _ after
    rw [Word.toNat_ofNat fits, node_toNat, lastTurn_toNat] at turn_toNat
    have turn_le : lastTurnOf descriptors.length node
        ((total.toNat - 1) / interleave.granule.toNat) ≤
          (total.toNat - 1) / interleave.granule.toNat := lastTurnOf_le
    have one : (1 : UInt64).toNat = 1 := rfl
    have succ_fits : lastTurnOf descriptors.length node
        ((total.toNat - 1) / interleave.granule.toNat) + 1 < Word.count := by
      have := Word.toNat_pos represents.memory
      omega
    simp only [if_neg unreached, if_neg (Nat.not_lt.2 reached), Word.sub_of_le after,
      Word.sub_of_le rest_le, Attempt.ok_bind]
    rw [Word.add_of_lt (by rw [turn_toNat, one]; exact succ_fits), turn_toNat, one, Attempt.ok_bind]
    have turns_toNat := Word.toNat_ofNat succ_fits
    have last_lt : (total - 1).toNat + 1 < Word.count := by
      have := Word.toNat_pos represents.memory
      omega
    rw [endOfTurn_eq (by omega) (represents.granule_pos turns) last_lt, turns_toNat, last_toNat,
      ← lastAddressOf]

/-- **The last owned address is the greatest address of a node, if the node has any.** -/
theorem lastOwned_spec (represents : decoder.Represents total descriptors)
    {interleave : Interleave} (turns : decoder.interleave = some interleave) {node : Nat}
    (below : node < descriptors.length) :
    (∃ address, decoder.lastOwned node interleave.granule = .ok (some address) ∧
        IsLastOwned total interleave descriptors.length node address) ∨
      decoder.lastOwned node interleave.granule = .ok none ∧
        ∀ address < total, interleave.owner descriptors.length address ≠ node := by
  have granule_pos := represents.granule_pos turns
  have total_pos := Word.toNat_pos represents.memory
  rw [represents.lastOwned_eq turns below]
  by_cases unreached : (total.toNat - 1) / interleave.granule.toNat < node
  · right
    refine ⟨by rw [if_pos unreached], ?_⟩
    intro address inside owned
    have before := UInt64.lt_iff_toNat_lt.1 inside
    have turn : address.toNat / interleave.granule.toNat ≤
        (total.toNat - 1) / interleave.granule.toNat := Nat.div_le_div_right (by omega)
    rw [Interleave.owner, Nat.mod_eq_of_lt (by omega)] at owned
    omega
  · left
    have last_lt : lastAddressOf total.toNat interleave.granule.toNat descriptors.length node <
        total.toNat := lastAddressOf_lt total_pos
    have last_toNat := Word.toNat_ofNat (last_lt.trans (Word.toNat_lt_count total))
    refine ⟨_, by rw [if_neg unreached], ⟨?_, ?_⟩, ?_⟩
    · rw [UInt64.lt_iff_toNat_lt, last_toNat]
      exact last_lt
    · rw [Interleave.owner, last_toNat]
      exact lastAddressOf_owned granule_pos below (Nat.not_lt.1 unreached)
    · rintro address ⟨inside, owned⟩
      rw [UInt64.le_iff_toNat_le, last_toNat]
      exact le_lastAddressOf granule_pos (UInt64.lt_iff_toNat_lt.1 inside) owned

end Represents

/-- **The last owned address is exactly the greatest one.**  For every decoder that can be made and every one
of its nodes, whatever the granule and the size of the space, an address is given exactly when it is the
greatest address of the node, and none exactly when the node has no address. -/
theorem lastOwned_isGreatest {decoder : AddressDecoder} {total : UInt64} {descriptors : List NodeDescriptor}
    (made : ofDescriptors total descriptors = .ok decoder) {interleave : Interleave}
    (turns : decoder.interleave = some interleave) {node : Nat} (below : node < decoder.nodeCount) :
    (∀ address, decoder.lastOwned node interleave.granule = .ok (some address) ↔
        IsLastOwned total interleave decoder.nodeCount node address) ∧
      (decoder.lastOwned node interleave.granule = .ok none ↔
        ∀ address < total, interleave.owner decoder.nodeCount address ≠ node) := by
  have represents := ofDescriptors_eq_ok_iff.1 made
  rw [represents.nodeCount_eq] at below ⊢
  rcases represents.lastOwned_spec turns below with ⟨last, found, greatest⟩ | ⟨found, unowned⟩
  · refine ⟨fun address => ⟨fun given => ?_, fun also_greatest => ?_⟩, fun given => ?_, fun unowned => ?_⟩
    · cases found.symm.trans given
      exact greatest
    · rw [found, UInt64.le_antisymm (also_greatest.2 greatest.1) (greatest.2 also_greatest.1)]
    · cases found.symm.trans given
    · exact absurd greatest.1.2 (unowned last greatest.1.1)
  · refine ⟨fun address => ⟨fun given => ?_, fun greatest => ?_⟩, fun _ => unowned, fun _ => found⟩
    · cases found.symm.trans given
    · exact absurd greatest.1.2 (unowned address greatest.1.1)

/-- Three nodes in turns of a quarter of the words. -/
def quarterTurns : AddressDecoder :=
  ⟨0xFFFFFFFFFFFFFFFF, some ⟨0x4000000000000000, 0xC000000000000000⟩,
    List.replicate 3 ⟨0, 0xFFFFFFFFFFFFFFFE, by decide⟩⟩

/-- The fourth of these turns is the first node's again.  Its end, computed from a product that is no word, is
the end of the space. -/
theorem lastOwned_isGreatest_cutOff :
    (∃ descriptors, ofDescriptors 0xFFFFFFFFFFFFFFFF descriptors = .ok quarterTurns) ∧
      quarterTurns.lastOwned 0 0x4000000000000000 = .ok (some 0xFFFFFFFFFFFFFFFE) ∧
        IsLastOwned 0xFFFFFFFFFFFFFFFF ⟨0x4000000000000000, 0xC000000000000000⟩ 3 0
          0xFFFFFFFFFFFFFFFE := by
  have made : ofDescriptors 0xFFFFFFFFFFFFFFFF
      ((quarterTurns.ranges.zipIdx).map fun entry => ⟨entry.2, entry.1, quarterTurns.interleave⟩) =
        .ok quarterTurns := by
    refine ofDescriptors_eq_ok_iff.2 ⟨by decide, List.cons_ne_nil _ _, rfl, ?_, ?_, rfl, rfl⟩
    · exact List.forall_mem_map.2 fun _ _ => rfl
    · rintro _ ⟨⟩
      exact ⟨by decide, by decide⟩
  have found : quarterTurns.lastOwned 0 0x4000000000000000 = .ok (some 0xFFFFFFFFFFFFFFFE) := by
    decide +kernel
  exact ⟨⟨_, made⟩, found, ((lastOwned_isGreatest made rfl (by decide)).1 _).1 found⟩

end AddressDecoder

end MemoryFabric

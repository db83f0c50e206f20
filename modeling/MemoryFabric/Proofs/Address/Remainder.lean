import MemoryFabric.Proofs.Address.Coverage
import MemoryFabric.Proofs.Address.Partition

/-!
# Remainders

A space need not be a multiple of the stride.  The nodes that take turns then have different numbers of
granules, but their envelopes end as if they had equally many.  Below the last whole stride nothing is lost.
Behind it an address is lost when the granules that should follow it in its stride reach past the end of the
space (`IsLost`), so that the tail of every granule is lost there, or everything.

Main statements: **`decode_remainder`**, what the decoder of a partition decodes, and **`partition_shares`**,
which partitions there are and which of them cover the space.  When one does not, the first node is the one
that is named.
-/

namespace MemoryFabric

set_option autoImplicit false

/-! ## Lost addresses -/

/-- An address behind the last whole stride whose place in its granule, moved to the last granule of the
stride, lies past the end of the space. -/
def IsLost (total granule nodes address : Nat) : Prop :=
  total / (granule * nodes) * (granule * nodes) ≤ address ∧
    total % (granule * nodes) ≤ address % granule + (nodes - 1) * granule

instance (total granule nodes address : Nat) : Decidable (IsLost total granule nodes address) :=
  inferInstanceAs (Decidable (_ ∧ _))

section Lost

variable {total granule nodes address : Nat}

/-- A stride is one granule and those of the other nodes. -/
theorem stride_eq (inhabited : 0 < nodes) : granule * nodes = granule + (nodes - 1) * granule := by
  have around := granules_around inhabited granule
  rw [Nat.zero_mul, Nat.zero_add, Nat.sub_zero] at around
  exact around.symm

/-- An address moved to the last granule of its stride. -/
theorem moved_eq (inhabited : 0 < nodes) :
    address + (nodes - address / granule % nodes - 1) * granule =
      address / (granule * nodes) * (granule * nodes) + (address % granule + (nodes - 1) * granule) := by
  have turn_lt : address / granule % nodes < nodes := Nat.mod_lt _ inhabited
  have behind : address / granule % nodes + (nodes - address / granule % nodes - 1) = nodes - 1 := by omega
  have strides : address / granule / nodes * nodes + address / granule % nodes = address / granule :=
    Nat.div_add_mod' _ _
  calc address + (nodes - address / granule % nodes - 1) * granule
      = (address / granule / nodes * nodes + address / granule % nodes) * granule + address % granule +
          (nodes - address / granule % nodes - 1) * granule := by
        rw [strides, Nat.div_add_mod']
    _ = address / granule / nodes * (granule * nodes) + (address % granule +
          (address / granule % nodes + (nodes - address / granule % nodes - 1)) * granule) := by ring
    _ = _ := by rw [behind, Nat.div_div_eq_div_mul]

/-- **An address is lost exactly when it is no longer inside the space in the last granule of its stride.** -/
theorem moved_lt_iff (granule_pos : 0 < granule) (inhabited : 0 < nodes) (inside : address < total) :
    address + (nodes - address / granule % nodes - 1) * granule < total ↔
      ¬ IsLost total granule nodes address := by
  have stride_pos : 0 < granule * nodes := Nat.mul_pos granule_pos inhabited
  have place_lt : address % granule + (nodes - 1) * granule < granule * nodes := by
    rw [stride_eq inhabited]
    exact Nat.add_lt_add_right (Nat.mod_lt _ granule_pos) _
  have whole : total / (granule * nodes) * (granule * nodes) + total % (granule * nodes) = total :=
    Nat.div_add_mod' _ _
  have behind_iff : total / (granule * nodes) * (granule * nodes) ≤ address ↔
      total / (granule * nodes) ≤ address / (granule * nodes) := (Nat.le_div_iff_mul_le stride_pos).symm
  have before : address / (granule * nodes) ≤ total / (granule * nodes) :=
    Nat.div_le_div_right inside.le
  rw [moved_eq inhabited, IsLost, behind_iff]
  rcases before.lt_or_eq with earlier | last
  · have next : (address / (granule * nodes) + 1) * (granule * nodes) ≤
        total / (granule * nodes) * (granule * nodes) := Nat.mul_le_mul_right _ earlier
    rw [Nat.succ_mul] at next
    refine iff_of_true (by omega) fun lost => ?_
    exact absurd lost.1 (Nat.not_le.2 earlier)
  · rw [last]
    omega

/-- Nothing is lost in a space of whole strides, or when one node has all turns. -/
theorem not_isLost (granule_pos : 0 < granule) (even : nodes = 1 ∨ granule * nodes ∣ total)
    (inside : address < total) : ¬ IsLost total granule nodes address := by
  rintro ⟨behind, reaches⟩
  rcases even with rfl | whole
  · rw [Nat.mul_one] at behind reaches
    have last := Nat.div_add_mod' total granule
    have place := Nat.div_add_mod' address granule
    have granules : total / granule ≤ address / granule := (Nat.le_div_iff_mul_le granule_pos).2 behind
    have scaled := Nat.mul_le_mul_right granule granules
    omega
  · rw [Nat.div_mul_cancel whole] at behind
    omega

/-- A remainder is lost to the first of several nodes. -/
theorem exists_isLost (granule_pos : 0 < granule) (several : 1 < nodes)
    (uneven : ¬ granule * nodes ∣ total) :
    ∃ address < total, address / granule % nodes = 0 ∧ IsLost total granule nodes address := by
  have stride_pos : 0 < granule * nodes := Nat.mul_pos granule_pos (Nat.zero_lt_of_lt several)
  have remainder_pos : 0 < total % (granule * nodes) := Nat.emod_pos_of_not_dvd uneven
  have remainder_lt : total % (granule * nodes) < granule * nodes := Nat.mod_lt _ stride_pos
  have whole : total / (granule * nodes) * (granule * nodes) + total % (granule * nodes) = total :=
    Nat.div_add_mod' _ _
  have others_pos : 0 < (nodes - 1) * granule := Nat.mul_pos (Nat.sub_pos_of_lt several) granule_pos
  have stride : granule * nodes = granule + (nodes - 1) * granule := stride_eq (Nat.zero_lt_of_lt several)
  -- The place in the first granule behind the whole strides where the envelope of the first node has ended.
  obtain ⟨place, place_eq⟩ : ∃ place, place = total % (granule * nodes) - (nodes - 1) * granule := ⟨_, rfl⟩
  have place_lt : place < granule := by omega
  have address_eq : total / (granule * nodes) * (granule * nodes) + place =
      place + total / (granule * nodes) * nodes * granule := by ring
  refine ⟨total / (granule * nodes) * (granule * nodes) + place, by omega, ?_, Nat.le_add_right _ _, ?_⟩
  · rw [address_eq, Nat.add_mul_div_right _ _ granule_pos, Nat.div_eq_of_lt place_lt, Nat.zero_add,
      Nat.mul_mod_left]
  · rw [address_eq, Nat.add_mul_mod_self_right, Nat.mod_eq_of_lt place_lt]
    omega

end Lost

/-! ## Nodes that take turns -/

/-- One descriptor for each node, as the nodes take turns of one granule. -/
structure TurnsOf (total granule : UInt64) (nodes : Nat) (descriptors : List NodeDescriptor) : Prop where
  granule_pos : 0 < granule.toNat
  inhabited : 0 < nodes
  fits : granule.toNat * nodes ≤ total.toNat
  turns : List.Forall₂ (NodeDescriptor.IsTurn total granule nodes) (List.range nodes) descriptors

/-- A partition among nodes that take turns gives each of them a granule in its stride. -/
theorem turnsOf_partition {total granule : UInt64} {nodes : Nat} {policy : InterleavePolicy}
    {descriptors : List NodeDescriptor} (turns : policy.granule? = some granule)
    (made : partition total nodes policy = .ok descriptors) : TurnsOf total granule nodes descriptors := by
  have granule_pos : 0 < granule.toNat :=
    Nat.lt_of_lt_of_le (by decide) (InterleavePolicy.le_granule? turns)
  by_cases inhabited : nodes = 0
  · rw [partition, if_pos inhabited] at made
    cases made
  by_cases memory : total = 0
  · rw [partition, if_neg inhabited, if_pos memory] at made
    cases made
  by_cases fits : granule.toNat * nodes ≤ total.toNat
  · obtain ⟨others, same, held⟩ := partition_of_fits inhabited memory turns fits
    cases made.symm.trans same
    exact ⟨granule_pos, Nat.pos_of_ne_zero inhabited, fits, held⟩
  · rw [partition, if_neg inhabited, if_neg memory, turns] at made
    simp only [if_neg fits] at made
    cases made

namespace TurnsOf

variable {total granule : UInt64} {nodes : Nat} {descriptors : List NodeDescriptor}
  {descriptor : NodeDescriptor} {decoder : AddressDecoder} {address : UInt64}
  (turns : TurnsOf total granule nodes descriptors)

include turns

theorem stride_lt : granule.toNat * nodes < Word.count :=
  Nat.lt_of_le_of_lt turns.fits (Word.toNat_lt_count total)

theorem length_eq : descriptors.length = nodes := by
  rw [← turns.turns.length_eq, List.length_range]

/-- The descriptor of a node. -/
theorem exists_isTurn {node : Nat} (below : node < nodes) :
    ∃ descriptor, descriptors[node]? = some descriptor ∧ descriptor.IsTurn total granule nodes node := by
  have inside : node < descriptors.length := turns.length_eq ▸ below
  have held := (List.forall₂_iff_get.1 turns.turns).2 node (by rwa [List.length_range]) inside
  rw [List.get_eq_getElem, List.getElem_range] at held
  exact ⟨_, List.getElem?_eq_getElem inside, held⟩

theorem isTurn (member : descriptor ∈ descriptors) :
    descriptor.node < nodes ∧ descriptor.IsTurn total granule nodes descriptor.node := by
  obtain ⟨node, found⟩ := List.mem_iff_getElem?.1 member
  have below : node < nodes := turns.length_eq ▸ (List.getElem?_eq_some_iff.1 found).1
  obtain ⟨_, same, held⟩ := turns.exists_isTurn below
  cases found.symm.trans same
  rw [held.node_eq]
  exact ⟨below, held⟩

/-- The envelope of a node and the granules of the nodes behind it end with the space. -/
theorem last_add_behind (member : descriptor ∈ descriptors) :
    descriptor.range.last.toNat + 1 + (nodes - descriptor.node - 1) * granule.toNat = total.toNat := by
  obtain ⟨below, held⟩ := turns.isTurn member
  have around := granules_around below granule.toNat
  have fits := turns.fits
  have granule_pos := turns.granule_pos
  have last := held.last
  omega

/-- **A decoder can always be made.** -/
theorem represents :
    (AddressDecoder.mk total (some ⟨granule, UInt64.ofNat (granule.toNat * nodes)⟩)
      (descriptors.map NodeDescriptor.range)).Represents total descriptors where
  memory := by
    rintro rfl
    have fits := turns.fits
    exact absurd (Nat.mul_pos turns.granule_pos turns.inhabited) (Nat.not_lt.2 fits)
  nonempty := List.ne_nil_of_length_pos (turns.length_eq ▸ turns.inhabited)
  numbered := by rw [turns.length_eq, nodes_of_turns turns.turns]
  agrees descriptor member := (turns.isTurn member).2.interleave
  turns := by
    rintro _ ⟨⟩
    refine ⟨fun zero => ?_, ?_⟩
    · have positive := turns.granule_pos
      rw [show granule = 0 from zero] at positive
      exact Nat.lt_irrefl 0 positive
    · rw [turns.length_eq, Word.toNat_ofNat turns.stride_lt]
  total_eq := rfl
  ranges_eq := rfl

/-- An address in front of the end of the space lies in the envelope of its owner unless it is lost. -/
theorem mem_range_iff (member : descriptor ∈ descriptors) (inside : address < total)
    (turn : address.toNat / granule.toNat % nodes = descriptor.node) :
    address ∈ descriptor.range ↔ ¬ IsLost total.toNat granule.toNat nodes address.toNat := by
  have ends := turns.last_add_behind member
  have first : descriptor.range.first.toNat ≤ address.toNat := by
    rw [(turns.isTurn member).2.first, ← turn]
    exact @Coverage.first_granule_le_of_owner ⟨granule, 0⟩ nodes address
  rw [← moved_lt_iff turns.granule_pos turns.inhabited (UInt64.lt_iff_toNat_lt.1 inside), turn,
    Coverage.mem_range_iff]
  omega

/-- The descriptor of the node whose turn it is. -/
theorem exists_owner (address : UInt64) :
    ∃ descriptor ∈ descriptors, address.toNat / granule.toNat % nodes = descriptor.node := by
  obtain ⟨descriptor, found, held⟩ :=
    turns.exists_isTurn (Nat.mod_lt (address.toNat / granule.toNat) turns.inhabited)
  exact ⟨descriptor, List.mem_of_getElem? found, held.node_eq.symm⟩

/-- **The decoder gives every address to the node whose turn it is, unless the address is lost.** -/
theorem decode_eq (made : AddressDecoder.ofDescriptors total descriptors = .ok decoder)
    (address : UInt64) :
    decoder.decode address =
      .ok (if total ≤ address ∨ IsLost total.toNat granule.toNat nodes address.toNat then none
        else some (address.toNat / granule.toNat % nodes)) := by
  have represents := turns.represents
  cases made.symm.trans (AddressDecoder.ofDescriptors_eq_ok_iff.2 represents)
  by_cases outside : total ≤ address
  · rw [represents.decode_of_total_le outside, if_pos (.inl outside)]
  · have inside := UInt64.not_le.1 outside
    obtain ⟨descriptor, member, turn⟩ := turns.exists_owner address
    have owner : Interleave.owner ⟨granule, UInt64.ofNat (granule.toNat * nodes)⟩ descriptors.length
        address = descriptor.node := by
      rw [Interleave.owner, turns.length_eq, turn]
    rw [represents.decode_interleaved rfl inside member owner, turn]
    simp only [AddressRange.contains_iff_mem, turns.mem_range_iff member inside turn, outside, false_or,
      ite_not]

theorem owner_eq (stride address : UInt64) :
    Interleave.owner ⟨granule, stride⟩ descriptors.length address =
      address.toNat / granule.toNat % nodes := by
  rw [Interleave.owner, turns.length_eq]

theorem last_lt (member : descriptor ∈ descriptors) : descriptor.range.last < total := by
  have ends := turns.last_add_behind member
  exact UInt64.lt_iff_toNat_lt.2 (by omega)

/-- The check of an envelope: none of the node's addresses may be lost. -/
theorem encloses_iff {stride : UInt64} (member : descriptor ∈ descriptors) :
    Coverage.Encloses total ⟨granule, stride⟩ descriptors.length descriptor ↔
      ∀ address < total, address.toNat / granule.toNat % nodes = descriptor.node →
        ¬ IsLost total.toNat granule.toNat nodes address.toNat := by
  constructor
  · intro encloses address inside turn
    have owner := (turns.owner_eq stride address).trans turn
    exact (turns.mem_range_iff member inside turn).1 (Coverage.owner_of_encloses encloses inside owner)
  · intro kept
    refine ⟨(turns.isTurn member).2.first, fun address inside owner => ?_⟩
    have turn := (turns.owner_eq stride address).symm.trans owner
    exact ((turns.mem_range_iff member inside turn).2 (kept address inside turn)).2

/-- **The check accepts the descriptors exactly when nothing is lost.** -/
theorem exists_verifyCoverage_iff :
    (∃ decoder, verifyCoverage total descriptors = .ok decoder) ↔
      ∀ address < total, ¬ IsLost total.toNat granule.toNat nodes address.toNat := by
  constructor
  · rintro ⟨decoder, accepted⟩ address inside
    obtain ⟨represents, _, encloses⟩ := verifyCoverage_eq_ok_iff.1 accepted
    cases (AddressDecoder.ofDescriptors_eq_ok_iff.2 represents).symm.trans
      (AddressDecoder.ofDescriptors_eq_ok_iff.2 turns.represents)
    obtain ⟨descriptor, member, turn⟩ := turns.exists_owner address
    exact (turns.encloses_iff member).1 (encloses descriptor member) address inside turn
  · intro kept
    refine ⟨_, verifyCoverage_eq_ok_iff.2 ⟨turns.represents, fun _ member => turns.last_lt member, ?_⟩⟩
    exact fun descriptor member => (turns.encloses_iff member).2 fun address inside _ => kept address inside

/-- A remainder loses an address of the first of several nodes. -/
theorem exists_lost (several : nodes ≠ 1) (uneven : ¬ granule.toNat * nodes ∣ total.toNat) :
    ∃ address < total, address.toNat / granule.toNat % nodes = 0 ∧
      IsLost total.toNat granule.toNat nodes address.toNat := by
  have inhabited := turns.inhabited
  obtain ⟨address, inside, turn, lost⟩ := exists_isLost turns.granule_pos (by omega) uneven
  have address_eq : (UInt64.ofNat address).toNat = address :=
    Word.toNat_ofNat (inside.trans (Word.toNat_lt_count total))
  rw [← address_eq] at inside turn lost
  exact ⟨_, UInt64.lt_iff_toNat_lt.2 inside, turn, lost⟩

/-- The check comes as far as the envelopes. -/
theorem verifyCoverage_eq_error {cause : PartitionError}
    (refused : Coverage.checkEnvelopes
      ⟨total, some ⟨granule, UInt64.ofNat (granule.toNat * nodes)⟩, descriptors.map NodeDescriptor.range⟩
        granule descriptors = .error (.reported cause)) :
    verifyCoverage total descriptors = .error (.reported (.partition cause)) := by
  have memory := turns.represents.memory
  have made := Attempt.reporting_eq_ok_iff.2 (AddressDecoder.ofDescriptors_eq_ok_iff.2 turns.represents)
  have ends : Coverage.checkEnds (total - 1) descriptors = .ok () :=
    Coverage.checkEnds_eq_ok_iff.2 fun _ member =>
      (Coverage.le_last_iff_lt_total memory).2 (turns.last_lt member)
  rw [verifyCoverage, made, Attempt.ok_bind, Word.sub_one_of_ne_zero memory]
  simp only [Attempt.checked, Attempt.ok_bind, ends, Attempt.reporting, refused]
  rfl

/-- **When the first node loses an address, the check names it.** -/
theorem verifyCoverage_stray {address : UInt64} (inside : address < total)
    (turn : address.toNat / granule.toNat % nodes = 0)
    (lost : IsLost total.toNat granule.toNat nodes address.toNat) :
    ∃ stray range, verifyCoverage total descriptors =
      .error (.reported (.partition (.stray stray 0 range))) := by
  have represents := turns.represents
  obtain ⟨first, rest, rfl⟩ := List.exists_cons_of_ne_nil represents.nonempty
  have node : first.node = 0 := represents.node_of_getElem? List.getElem?_cons_zero
  have member : first ∈ first :: rest := List.mem_cons_self
  have below := represents.node_lt_length member
  have begins : first.range.first = UInt64.ofNat (first.node * granule.toNat) := by
    rw [← UInt64.toNat_inj, (turns.isTurn member).2.first, node, Nat.zero_mul]
    rfl
  have owner := (turns.owner_eq (UInt64.ofNat (granule.toNat * nodes)) address).trans (turn.trans node.symm)
  have outside : first.range.last < address := by
    have not_held := mt (turns.mem_range_iff member inside (turn.trans node.symm)).1 (not_not.2 lost)
    refine UInt64.not_le.1 fun before => not_held ⟨?_, before⟩
    rw [begins, node, Nat.zero_mul]
    exact UInt64.le_iff_toNat_le.2 (Nat.zero_le _)
  rcases represents.lastOwned_spec rfl below with ⟨last, found, _, greatest⟩ | ⟨_, unowned⟩
  · have stray : first.range.last < last := UInt64.lt_of_lt_of_le outside (greatest ⟨inside, owner⟩)
    refine ⟨last, first.range, turns.verifyCoverage_eq_error ?_⟩
    rw [Coverage.checkEnvelopes_cons represents rfl below found, if_neg (not_not.2 begins),
      Option.filter_some, if_pos (decide_eq_true stray), node]
    rfl
  · exact absurd owner (unowned address inside)

end TurnsOf

/-! ## A single owner -/

/-- The one descriptor of a partition without turns. -/
def NodeDescriptor.whole (total : UInt64) : NodeDescriptor :=
  ⟨0, ⟨0, total - 1, UInt64.le_iff_toNat_le.2 (Nat.zero_le _)⟩, none⟩

theorem InterleavePolicy.granule?_eq_none_iff {policy : InterleavePolicy} :
    policy.granule? = .none ↔ policy = .none := by
  cases policy <;> simp [granule?]

section Single

variable {total : UInt64} {nodes : Nat} {policy : InterleavePolicy} {descriptors : List NodeDescriptor}

theorem NodeDescriptor.mem_whole_iff (memory : total ≠ 0) {address : UInt64} :
    address ∈ (whole total).range ↔ address < total := by
  rw [← Coverage.le_last_iff_lt_total memory]
  exact and_iff_right (UInt64.le_iff_toNat_le.2 (Nat.zero_le _))

/-- A partition without turns is that of a single node that owns everything. -/
theorem single_of_partition (alone : policy.granule? = none)
    (made : partition total nodes policy = .ok descriptors) :
    total ≠ 0 ∧ nodes = 1 ∧ descriptors = [.whole total] := by
  by_cases inhabited : nodes = 0
  · rw [partition, if_pos inhabited] at made
    cases made
  by_cases memory : total = 0
  · rw [partition, if_neg inhabited, if_pos memory] at made
    cases made
  by_cases several : nodes = 1
  · subst several
    cases made.symm.trans (partition_of_none memory alone)
    exact ⟨memory, rfl, rfl⟩
  · rw [partition, if_neg inhabited, if_neg memory, alone] at made
    simp only [if_pos several] at made
    cases made

theorem single_represents (memory : total ≠ 0) :
    (AddressDecoder.mk total none [(NodeDescriptor.whole total).range]).Represents total
      [.whole total] :=
  ⟨memory, List.cons_ne_nil _ _, rfl, List.forall_mem_singleton.2 rfl, nofun, rfl, rfl⟩

/-- The decoder without turns gives every address of the space to the one node. -/
theorem decode_single (memory : total ≠ 0) (address : UInt64) :
    (AddressDecoder.mk total none [(NodeDescriptor.whole total).range]).decode address =
      .ok (if total ≤ address then none else some 0) := by
  have represents := single_represents memory
  by_cases outside : total ≤ address
  · rw [represents.decode_of_total_le outside, if_pos outside]
  · have inside := UInt64.not_le.1 outside
    have held : (NodeDescriptor.whole total).range.contains address = true :=
      AddressRange.contains_iff_mem.2 ((NodeDescriptor.mem_whole_iff memory).2 inside)
    rw [represents.decode_contiguous rfl inside, if_neg outside, List.findIdx?_cons, held]
    rfl

/-- A single node without turns covers the space. -/
theorem verifyCoverage_single (memory : total ≠ 0) :
    ∃ decoder, verifyCoverage total [.whole total] = .ok decoder := by
  refine ⟨_, verifyCoverage_eq_ok_iff.2 ⟨single_represents memory, ?_, fun address inside => ?_⟩⟩
  · exact List.forall_mem_singleton.2
      ((NodeDescriptor.mem_whole_iff memory).1 ⟨(NodeDescriptor.whole total).range.ordered, UInt64.le_refl _⟩)
  · refine Coverage.holders_eq_one_iff.2 ⟨⟨0, Nat.zero_lt_one⟩, fun other => ?_⟩
    rw [Fin.fin_one_eq_zero other]
    exact iff_of_true ((NodeDescriptor.mem_whole_iff memory).2 inside) rfl

end Single

/-! ## What a partition decodes -/

/-- **What the decoder of a partition among nodes that take turns decodes.**  The decoder can always be made.
An address has no owner exactly when it lies behind the end of the space or is lost; every other one goes to
the node whose turn it is.  A single node that has all turns decodes what a single node without turns does. -/
theorem decode_remainder {total granule : UInt64} {nodes : Nat} {policy : InterleavePolicy}
    {descriptors : List NodeDescriptor} (turns : policy.granule? = some granule)
    (made : partition total nodes policy = .ok descriptors) :
    ∃ decoder, AddressDecoder.ofDescriptors total descriptors = .ok decoder ∧
      (∀ address,
        (decoder.decode address = .ok none ↔
          total ≤ address ∨ IsLost total.toNat granule.toNat nodes address.toNat) ∧
        (¬ (total ≤ address ∨ IsLost total.toNat granule.toNat nodes address.toNat) →
          decoder.decode address = .ok (some (address.toNat / granule.toNat % nodes)))) ∧
      (nodes = 1 → ∃ whole plain, partition total 1 .none = .ok whole ∧
        AddressDecoder.ofDescriptors total whole = .ok plain ∧
          ∀ address, decoder.decode address = plain.decode address) := by
  have taken := turnsOf_partition turns made
  have ready := AddressDecoder.ofDescriptors_eq_ok_iff.2 taken.represents
  have decodes := taken.decode_eq ready
  refine ⟨_, ready, fun address => ⟨?_, fun owned => ?_⟩, ?_⟩
  · rw [decodes]
    split
    · next lost => exact iff_of_true rfl lost
    · next owned => exact iff_of_false nofun owned
  · rw [decodes, if_neg owned]
  · rintro rfl
    have memory := taken.represents.memory
    refine ⟨_, _, partition_of_none memory rfl,
      AddressDecoder.ofDescriptors_eq_ok_iff.2 (single_represents memory), fun address => ?_⟩
    rw [decodes, decode_single memory, Nat.mod_one]
    by_cases outside : total ≤ address
    · rw [if_pos outside, if_pos (.inl outside)]
    · have kept := not_isLost taken.granule_pos (.inl rfl)
        (UInt64.lt_iff_toNat_lt.1 (UInt64.not_le.1 outside))
      rw [if_neg outside, if_neg (not_or.2 ⟨outside, kept⟩)]

/-- Three cache lines for two nodes: the first node should have the third line, but its envelope ends with
the second. -/
theorem decode_remainder_threeLines :
    ∃ descriptors decoder, partition 192 2 .small = .ok descriptors ∧
      AddressDecoder.ofDescriptors 192 descriptors = .ok decoder ∧
        decoder.decode 130 = .ok none ∧ decoder.decode 70 = .ok (some 1) := by
  have made : partition 192 2 .small = .ok
      [⟨0, ⟨0, 127, by decide⟩, some ⟨64, 128⟩⟩, ⟨1, ⟨64, 191, by decide⟩, some ⟨64, 128⟩⟩] := rfl
  have lines : InterleavePolicy.granule? .small = some 64 := rfl
  obtain ⟨decoder, ready, decodes, _⟩ := decode_remainder lines made
  exact ⟨_, decoder, made, ready, (decodes 130).1.2 (by decide), (decodes 70).2 (by decide)⟩

/-! ## Which partitions there are -/

/-- A space can be partitioned when it is not empty and every node gets a granule of its own; without turns
there must be one node. -/
def InterleavePolicy.Allows (policy : InterleavePolicy) (total : UInt64) (nodes : Nat) : Prop :=
  1 ≤ total.toNat ∧ 1 ≤ nodes ∧
    match policy.granule? with
    | .none => nodes = 1
    | .some granule => granule.toNat * nodes < Word.count ∧ granule.toNat * nodes ≤ total.toNat

/-- A space is shared out without a remainder when a single node has all of it, or when it consists of
whole strides. -/
def InterleavePolicy.Covers (policy : InterleavePolicy) (total : UInt64) (nodes : Nat) : Prop :=
  policy = .none ∨ nodes = 1 ∨
    ∃ granule, policy.granule? = some granule ∧ granule.toNat * nodes ∣ total.toNat

/-- The envelope of a node: from its first granule up to the granules of the nodes behind it. -/
structure NodeDescriptor.IsEnvelope (total granule : UInt64) (nodes : Nat)
    (descriptor : NodeDescriptor) : Prop where
  first : descriptor.range.first.toNat = descriptor.node * granule.toNat
  last : descriptor.range.last.toNat + 1 + (nodes - descriptor.node - 1) * granule.toNat = total.toNat
  interleave : ∃ interleave, descriptor.interleave = some interleave ∧ interleave.granule = granule ∧
    interleave.stride.toNat = granule.toNat * nodes

section Shares

variable {total granule : UInt64} {nodes : Nat} {policy : InterleavePolicy}
  {descriptors : List NodeDescriptor}

theorem exists_partition_iff :
    (∃ descriptors, partition total nodes policy = .ok descriptors) ↔ policy.Allows total nodes := by
  have memory_iff : 1 ≤ total.toNat ↔ total ≠ 0 :=
    Nat.one_le_iff_ne_zero.trans (not_congr (@UInt64.toNat_inj total 0))
  rw [InterleavePolicy.Allows, memory_iff]
  cases turns : policy.granule? with
  | none =>
      constructor
      · rintro ⟨_, made⟩
        obtain ⟨memory, rfl, _⟩ := single_of_partition turns made
        exact ⟨memory, le_rfl, rfl⟩
      · rintro ⟨memory, _, rfl⟩
        exact ⟨_, partition_of_none memory turns⟩
  | some granule =>
      constructor
      · rintro ⟨_, made⟩
        have taken := turnsOf_partition turns made
        exact ⟨taken.represents.memory, taken.inhabited, taken.stride_lt, taken.fits⟩
      · rintro ⟨memory, inhabited, _, fits⟩
        obtain ⟨descriptors, made, _⟩ :=
          partition_of_fits (Nat.one_le_iff_ne_zero.1 inhabited) memory turns fits
        exact ⟨descriptors, made⟩

theorem TurnsOf.isEnvelope (turns : TurnsOf total granule nodes descriptors) {descriptor : NodeDescriptor}
    (member : descriptor ∈ descriptors) : descriptor.IsEnvelope total granule nodes where
  first := (turns.isTurn member).2.first
  last := turns.last_add_behind member
  interleave := ⟨_, (turns.isTurn member).2.interleave, rfl, Word.toNat_ofNat turns.stride_lt⟩

/-- A partition is accepted when it leaves no remainder. -/
theorem verifyCoverage_of_covers (made : partition total nodes policy = .ok descriptors)
    (covers : policy.Covers total nodes) : ∃ decoder, verifyCoverage total descriptors = .ok decoder := by
  cases turns : policy.granule? with
  | none =>
      obtain ⟨memory, _, rfl⟩ := single_of_partition turns made
      exact verifyCoverage_single memory
  | some granule =>
      have taken := turnsOf_partition turns made
      refine taken.exists_verifyCoverage_iff.2 fun address inside => ?_
      refine not_isLost taken.granule_pos ?_ (UInt64.lt_iff_toNat_lt.1 inside)
      rcases covers with rfl | alone | ⟨_, same, whole⟩
      · cases turns
      · exact .inl alone
      · cases turns.symm.trans same
        exact .inr whole

/-- A partition with a remainder is refused for the first node. -/
theorem verifyCoverage_of_not_covers (made : partition total nodes policy = .ok descriptors)
    (remains : ¬ policy.Covers total nodes) :
    ∃ cause, verifyCoverage total descriptors = .error (.reported (.partition cause)) ∧
      cause.nodes = [0] := by
  obtain ⟨turned, several, uneven⟩ : policy ≠ .none ∧ nodes ≠ 1 ∧
      ¬ ∃ granule, policy.granule? = some granule ∧ granule.toNat * nodes ∣ total.toNat := by
    simpa only [InterleavePolicy.Covers, not_or] using remains
  obtain ⟨granule, turns⟩ :=
    Option.ne_none_iff_exists'.1 (mt InterleavePolicy.granule?_eq_none_iff.1 turned)
  have taken := turnsOf_partition turns made
  obtain ⟨address, inside, turn, lost⟩ :=
    taken.exists_lost several fun whole => uneven ⟨granule, turns, whole⟩
  obtain ⟨stray, range, refused⟩ := taken.verifyCoverage_stray inside turn lost
  exact ⟨_, refused, rfl⟩

end Shares

/-- **Which partitions there are, and which of them cover the space.**  A partition is made exactly when it is
allowed, and never faults.  It numbers the nodes in their order and gives those that take turns their
envelopes.  The check accepts it exactly when it leaves no remainder, and names the first node alone when it
leaves one. -/
theorem partition_shares (total : UInt64) (nodes : Nat) (policy : InterleavePolicy) :
    ((∃ descriptors, partition total nodes policy = .ok descriptors) ↔ policy.Allows total nodes) ∧
      (∀ fault, partition total nodes policy ≠ .error (.fault fault)) ∧
        ∀ descriptors, partition total nodes policy = .ok descriptors →
          descriptors.map NodeDescriptor.node = List.range nodes ∧
          (∀ granule, policy.granule? = some granule →
            ∀ descriptor ∈ descriptors, descriptor.IsEnvelope total granule nodes) ∧
          ((∃ decoder, verifyCoverage total descriptors = .ok decoder) ↔ policy.Covers total nodes) ∧
          (¬ policy.Covers total nodes →
            ∃ cause, verifyCoverage total descriptors = .error (.reported (.partition cause)) ∧
              cause.nodes = [0]) := by
  refine ⟨exists_partition_iff, fun fault faulted => ?_, fun descriptors made => ⟨?_, ?_, ⟨?_, ?_⟩, ?_⟩⟩
  · rcases partition_cases total nodes policy with ⟨_, refused⟩ | ⟨_, made, _⟩
    · cases faulted.symm.trans refused
    · cases faulted.symm.trans made
  · rcases partition_cases total nodes policy with ⟨_, refused⟩ | ⟨_, same, numbered⟩
    · cases made.symm.trans refused
    · cases made.symm.trans same
      exact numbered
  · exact fun granule turns descriptor member => (turnsOf_partition turns made).isEnvelope member
  · rintro ⟨decoder, accepted⟩
    by_contra remains
    obtain ⟨_, refused, _⟩ := verifyCoverage_of_not_covers made remains
    cases accepted.symm.trans refused
  · exact verifyCoverage_of_covers made
  · exact verifyCoverage_of_not_covers made

/-- Three cache lines can be partitioned among two nodes, and the check refuses the result. -/
theorem partition_shares_threeLines :
    ∃ descriptors, partition 192 2 .small = .ok descriptors ∧
      ∃ cause, verifyCoverage 192 descriptors = .error (.reported (.partition cause)) ∧
        cause.nodes = [0] := by
  obtain ⟨allowed_iff, _, shares⟩ := partition_shares 192 2 .small
  obtain ⟨descriptors, made⟩ := allowed_iff.2 ⟨by decide, by decide, by decide, by decide⟩
  refine ⟨descriptors, made, (shares descriptors made).2.2.2 ?_⟩
  rintro (policy | nodes | ⟨_, ⟨⟩, whole⟩)
  · cases policy
  · cases nodes
  · exact absurd whole (by decide)

end MemoryFabric

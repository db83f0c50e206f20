import MemoryFabric.Proofs.Address.LastOwned
import MemoryFabric.Proofs.Address.Tiling

/-!
# The check of a partition

Descriptors share out the address space when they stand in the order of their nodes, agree on the
interleave, stay inside the space, and give every address one owner (`SharesOut`).  With turns the owner of
an address is known, so its range has to hold it; without, exactly one range has to hold the address.

Main statement: **`verifyCoverage_accepts_exactly_shares`**.  The check accepts exactly such descriptors,
and the decoder that it gives resolves every address to the one descriptor that claims it.
-/

namespace MemoryFabric

set_option autoImplicit false

/-- A descriptor claims an address when its range holds the address and it is the turn of its node. -/
def NodeDescriptor.Claims (nodes : Nat) (descriptor : NodeDescriptor) (address : UInt64) : Prop :=
  address ∈ descriptor.range ∧
    ∀ interleave, descriptor.interleave = some interleave →
      interleave.owner nodes address = descriptor.node

namespace Coverage

/-! ## The steps of the check -/

theorem checkEnds_eq_ok_iff {last : UInt64} {descriptors : List NodeDescriptor} :
    checkEnds last descriptors = .ok () ↔
      ∀ descriptor ∈ descriptors, descriptor.range.last ≤ last := by
  induction descriptors with
  | nil => simp [checkEnds]
  | cons descriptor rest ih =>
      rw [checkEnds, List.forall_mem_cons]
      split
      · next past => simp [UInt64.not_le.2 past]
      · next inside => simp [UInt64.not_lt.1 inside, ih]

theorem le_last_iff_lt_total {total address : UInt64} (nonzero : total ≠ 0) :
    address ≤ total - 1 ↔ address < total := by
  have positive := Word.toNat_pos nonzero
  rw [UInt64.le_iff_toNat_le, UInt64.lt_iff_toNat_lt, Word.toNat_sub_one nonzero]
  omega

section Envelopes

variable {decoder : AddressDecoder} {total : UInt64} {descriptors : List NodeDescriptor}
  {interleave : Interleave}

/-- The first granule of a node is at a word. -/
theorem first_granule_lt (represents : decoder.Represents total descriptors)
    (turns : decoder.interleave = some interleave) {node : Nat}
    (below : node < descriptors.length) : node * interleave.granule.toNat < Word.count := by
  calc node * interleave.granule.toNat
      ≤ descriptors.length * interleave.granule.toNat := Nat.mul_le_mul_right _ below.le
    _ = interleave.stride.toNat := by
        rw [Nat.mul_comm, (represents.turns interleave turns).2]
    _ < Word.count := Word.toNat_lt_count _

/-- The step of the check for one node, once its last address is known. -/
theorem checkEnvelopes_cons (represents : decoder.Represents total descriptors)
    (turns : decoder.interleave = some interleave) {descriptor : NodeDescriptor}
    (below : descriptor.node < descriptors.length) {rest : List NodeDescriptor}
    {last : Option UInt64}
    (found : decoder.lastOwned descriptor.node interleave.granule = .ok last) :
    checkEnvelopes decoder interleave.granule (descriptor :: rest) =
      if descriptor.range.first ≠ UInt64.ofNat (descriptor.node * interleave.granule.toNat) then
        Attempt.report (.misaligned descriptor.node descriptor.range
          (UInt64.ofNat (descriptor.node * interleave.granule.toNat)))
      else
        match last.filter fun address => descriptor.range.last < address with
        | some address => Attempt.report (.stray address descriptor.node descriptor.range)
        | none => checkEnvelopes decoder interleave.granule rest := by
  have node_lt := below.trans (represents.length_lt_count turns)
  have first_lt := first_granule_lt represents turns below
  have node_toNat := Word.toNat_ofNat node_lt
  have first_eq : (do Word.mul (← Word.fit descriptor.node) interleave.granule) =
      .ok (UInt64.ofNat (descriptor.node * interleave.granule.toNat)) := by
    rw [Word.fit_of_lt node_lt, Attempt.ok_bind, Word.mul_of_lt (by rw [node_toNat]; exact first_lt),
      node_toNat]
  rw [checkEnvelopes, first_eq, found]
  simp only [Attempt.checked, Attempt.ok_bind]
  by_cases starts : descriptor.range.first =
      UInt64.ofNat (descriptor.node * interleave.granule.toNat)
  · simp only [starts, ne_eq, not_true_eq_false, if_false]
    cases last with
    | none => rfl
    | some address =>
        by_cases stray : descriptor.range.last < address
        · simp [Option.filter, stray, Attempt.report]
        · simp [Option.filter, stray]
  · simp only [starts, ne_eq, not_false_eq_true, if_true]
    rfl

/-- What the check asks of one envelope. -/
structure Encloses (total : UInt64) (interleave : Interleave) (nodes : Nat)
    (descriptor : NodeDescriptor) : Prop where
  first : descriptor.range.first.toNat = descriptor.node * interleave.granule.toNat
  holds : ∀ address < total, interleave.owner nodes address = descriptor.node →
    address ≤ descriptor.range.last

/-- The last address of a node stands for all of them. -/
theorem checkEnvelopes_cons_eq_ok_iff (represents : decoder.Represents total descriptors)
    (turns : decoder.interleave = some interleave) {descriptor : NodeDescriptor}
    (below : descriptor.node < descriptors.length) {rest : List NodeDescriptor} :
    checkEnvelopes decoder interleave.granule (descriptor :: rest) = .ok () ↔
      Encloses total interleave descriptors.length descriptor ∧
        checkEnvelopes decoder interleave.granule rest = .ok () := by
  have first_iff : descriptor.range.first =
      UInt64.ofNat (descriptor.node * interleave.granule.toNat) ↔
        descriptor.range.first.toNat = descriptor.node * interleave.granule.toNat := by
    rw [← UInt64.toNat_inj, Word.toNat_ofNat (first_granule_lt represents turns below)]
  rcases represents.lastOwned_spec turns below with ⟨last, found, ⟨inside, owned⟩, greatest⟩ |
    ⟨found, unowned⟩
  · rw [checkEnvelopes_cons represents turns below found]
    by_cases starts : descriptor.range.first =
        UInt64.ofNat (descriptor.node * interleave.granule.toNat)
    · by_cases stray : descriptor.range.last < last
      · have outside : ¬ Encloses total interleave descriptors.length descriptor := fun encloses =>
          UInt64.not_le.2 stray (encloses.holds last inside owned)
        simp [starts, Option.filter, stray, outside]
      · have encloses : Encloses total interleave descriptors.length descriptor := {
          first := first_iff.1 starts
          holds := fun address before turn =>
            UInt64.le_trans (greatest ⟨before, turn⟩) (UInt64.not_lt.1 stray) }
        simp [starts, Option.filter, stray, encloses]
    · have outside : ¬ Encloses total interleave descriptors.length descriptor := fun encloses =>
        starts (first_iff.2 encloses.first)
      rw [if_pos starts]
      simp [outside]
  · rw [checkEnvelopes_cons represents turns below found]
    by_cases starts : descriptor.range.first =
        UInt64.ofNat (descriptor.node * interleave.granule.toNat)
    · have encloses : Encloses total interleave descriptors.length descriptor := {
        first := first_iff.1 starts
        holds := fun address before turn => absurd turn (unowned address before) }
      simp [starts, encloses]
    · have outside : ¬ Encloses total interleave descriptors.length descriptor := fun encloses =>
        starts (first_iff.2 encloses.first)
      rw [if_pos starts]
      simp [outside]

theorem checkEnvelopes_eq_ok_iff (represents : decoder.Represents total descriptors)
    (turns : decoder.interleave = some interleave) {checkedOnes : List NodeDescriptor}
    (below : ∀ descriptor ∈ checkedOnes, descriptor.node < descriptors.length) :
    checkEnvelopes decoder interleave.granule checkedOnes = .ok () ↔
      ∀ descriptor ∈ checkedOnes, Encloses total interleave descriptors.length descriptor := by
  induction checkedOnes with
  | nil => simp [checkEnvelopes]
  | cons descriptor rest ih =>
      obtain ⟨head_below, rest_below⟩ := List.forall_mem_cons.1 below
      rw [checkEnvelopes_cons_eq_ok_iff represents turns head_below, ih rest_below,
        List.forall_mem_cons]

/-- An address never precedes the first granule of its owner. -/
theorem first_granule_le_of_owner {nodes : Nat} {address : UInt64} :
    interleave.owner nodes address * interleave.granule.toNat ≤ address.toNat := by
  calc interleave.owner nodes address * interleave.granule.toNat
      ≤ address.toNat / interleave.granule.toNat * interleave.granule.toNat :=
        Nat.mul_le_mul_right _ (Nat.mod_le _ _)
    _ ≤ address.toNat := Nat.div_mul_le_self _ _

theorem owner_of_encloses {nodes : Nat} {descriptor : NodeDescriptor} {address : UInt64}
    (encloses : Encloses total interleave nodes descriptor) (inside : address < total)
    (turn : interleave.owner nodes address = descriptor.node) : address ∈ descriptor.range := by
  refine ⟨?_, encloses.holds address inside turn⟩
  rw [UInt64.le_iff_toNat_le, encloses.first, ← turn]
  exact first_granule_le_of_owner

end Envelopes

end Coverage

/-! ## Partitions -/

/-- Every address of the space lies in the range of one descriptor. -/
structure Tiles (total : UInt64) (descriptors : List NodeDescriptor) : Prop where
  contiguous : ∀ descriptor ∈ descriptors, descriptor.interleave = none
  once : ∀ address < total, ∃ position : Fin descriptors.length,
    ∀ other, address ∈ (descriptors.get other).range ↔ other = position

/-- The descriptors take turns, and the range of each begins with its first granule and holds every
address of its turns. -/
structure TakeTurns (total : UInt64) (interleave : Interleave) (descriptors : List NodeDescriptor) :
    Prop where
  agree : ∀ descriptor ∈ descriptors, descriptor.interleave = some interleave
  granule : interleave.granule ≠ 0
  stride : interleave.granule.toNat * descriptors.length = interleave.stride.toNat
  first : ∀ descriptor ∈ descriptors,
    descriptor.range.first.toNat = descriptor.node * interleave.granule.toNat
  holds : ∀ address < total, ∀ descriptor ∈ descriptors,
    interleave.owner descriptors.length address = descriptor.node → address ∈ descriptor.range

/-- The descriptors are a correct partition of a space of `total` bytes. -/
structure SharesOut (total : UInt64) (descriptors : List NodeDescriptor) : Prop where
  memory : total ≠ 0
  nonempty : descriptors ≠ []
  numbered : descriptors.map NodeDescriptor.node = List.range descriptors.length
  inside : ∀ descriptor ∈ descriptors, descriptor.range.last < total
  shared : Tiles total descriptors ∨ ∃ interleave, TakeTurns total interleave descriptors

section Partitions

variable {decoder : AddressDecoder} {total : UInt64} {descriptors : List NodeDescriptor}

theorem verifyCoverage_eq_ok_iff_checks :
    verifyCoverage total descriptors = .ok decoder ↔
      decoder.Represents total descriptors ∧
        Coverage.checkEnds (total - 1) descriptors = .ok () ∧
        (match decoder.interleave with
          | some interleave => Coverage.checkEnvelopes decoder interleave.granule descriptors
          | none => Coverage.checkTiling total (total - 1) descriptors) =
            .ok () := by
  simp only [verifyCoverage, Attempt.bind_eq_ok_iff, Attempt.reporting_eq_ok_iff,
    Attempt.checked_eq_ok_iff, Attempt.mapError_eq_ok_iff, Attempt.pure_eq_ok_iff,
    AddressDecoder.ofDescriptors_eq_ok_iff]
  constructor
  · rintro ⟨decoder, represents, last, last_eq, _, ⟨_, ends, shares⟩, rfl⟩
    rw [Word.sub_one_of_ne_zero represents.memory] at last_eq
    cases last_eq
    exact ⟨represents, ends, shares⟩
  · rintro ⟨represents, ends, shares⟩
    exact ⟨decoder, represents, _, Word.sub_one_of_ne_zero represents.memory, (), ⟨(), ends, shares⟩, rfl⟩

theorem verifyCoverage_eq_ok_iff :
    verifyCoverage total descriptors = .ok decoder ↔
      decoder.Represents total descriptors ∧
        (∀ descriptor ∈ descriptors, descriptor.range.last < total) ∧
        match decoder.interleave with
        | none => ∀ address < total, Coverage.holders descriptors address = 1
        | some interleave => ∀ descriptor ∈ descriptors,
            Coverage.Encloses total interleave descriptors.length descriptor := by
  rw [verifyCoverage_eq_ok_iff_checks]
  refine and_congr_right fun represents => ?_
  simp only [Coverage.checkEnds_eq_ok_iff, Coverage.le_last_iff_lt_total represents.memory]
  refine and_congr_right fun inside => ?_
  cases turns : decoder.interleave with
  | none => simp only [Coverage.checkTiling_eq_ok_iff inside]
  | some interleave =>
      exact Coverage.checkEnvelopes_eq_ok_iff represents turns fun _ member =>
        represents.node_lt_length member

theorem verifyCoverage_represents (accepted : verifyCoverage total descriptors = .ok decoder) :
    decoder.Represents total descriptors :=
  (verifyCoverage_eq_ok_iff.1 accepted).1

/-- An accepted list shares out the space. -/
theorem sharesOut_of_verifyCoverage (accepted : verifyCoverage total descriptors = .ok decoder) :
    SharesOut total descriptors := by
  obtain ⟨represents, inside, shared⟩ := verifyCoverage_eq_ok_iff.1 accepted
  refine ⟨represents.memory, represents.nonempty, represents.numbered, inside, ?_⟩
  have agrees := represents.agrees
  cases turns : decoder.interleave with
  | none =>
      rw [turns] at agrees shared
      exact .inl ⟨agrees, fun address before => Coverage.holders_eq_one_iff.1 (shared address before)⟩
  | some interleave =>
      rw [turns] at agrees shared
      obtain ⟨granule, stride⟩ := represents.turns interleave turns
      refine .inr ⟨interleave, agrees, granule, stride, ?_, ?_⟩
      · intro descriptor member
        exact (shared descriptor member).first
      · intro address before descriptor member turn
        exact Coverage.owner_of_encloses (shared descriptor member) before turn

/-- A list that shares out the space is accepted. -/
theorem verifyCoverage_of_sharesOut (shares : SharesOut total descriptors) :
    ∃ decoder, verifyCoverage total descriptors = .ok decoder := by
  obtain ⟨memory, nonempty, numbered, inside, tiles | ⟨interleave, turns⟩⟩ := shares
  · refine ⟨⟨total, none, descriptors.map NodeDescriptor.range⟩, verifyCoverage_eq_ok_iff.2 ⟨?_, inside, ?_⟩⟩
    · exact ⟨memory, nonempty, numbered, tiles.contiguous, nofun, rfl, rfl⟩
    · exact fun address before => Coverage.holders_eq_one_iff.2 (tiles.once address before)
  · refine ⟨⟨total, some interleave, descriptors.map NodeDescriptor.range⟩,
      verifyCoverage_eq_ok_iff.2 ⟨?_, inside, ?_⟩⟩
    · refine ⟨memory, nonempty, numbered, turns.agree, ?_, rfl, rfl⟩
      rintro _ ⟨⟩
      exact ⟨turns.granule, turns.stride⟩
    · intro descriptor member
      refine ⟨turns.first descriptor member, fun address before turn => ?_⟩
      exact (turns.holds address before descriptor member turn).2

/-! ## Owners -/

theorem AddressDecoder.Represents.node_get (represents : decoder.Represents total descriptors)
    (position : Fin descriptors.length) : (descriptors.get position).node = position :=
  represents.node_of_getElem? (List.getElem?_eq_getElem position.isLt)

/-- One descriptor claims an address of the space, and it is the one that the address decodes to. -/
theorem exists_claimant (accepted : verifyCoverage total descriptors = .ok decoder)
    {address : UInt64} (before : address < total) :
    ∃ owner : Fin descriptors.length,
      (∀ other, (descriptors.get other).Claims descriptors.length address ↔ other = owner) ∧
        decoder.decode address = .ok (some (descriptors.get owner).node) := by
  have represents := verifyCoverage_represents accepted
  obtain ⟨_, _, _, _, tiles | ⟨interleave, turns⟩⟩ := sharesOut_of_verifyCoverage accepted
  · obtain ⟨owner, once⟩ := tiles.once address before
    have contiguous : decoder.interleave = none := by
      rw [← represents.agrees _ (List.get_mem descriptors owner)]
      exact tiles.contiguous _ (List.get_mem descriptors owner)
    refine ⟨owner, fun other => ?_, ?_⟩
    · rw [← once other, NodeDescriptor.Claims, tiles.contiguous _ (List.get_mem descriptors other)]
      simp
    · rw [represents.decode_contiguous contiguous before, represents.node_get]
      congr 1
      refine List.findIdx?_eq_some_iff_getElem.2 ⟨owner.isLt, ?_, fun earlier below holds => ?_⟩
      · exact AddressRange.contains_iff_mem.2 ((once owner).2 rfl)
      · have same := (once ⟨earlier, below.trans owner.isLt⟩).1 (AddressRange.contains_iff_mem.1 holds)
        exact below.ne (congrArg Fin.val same)
  · have below := interleave.owner_lt represents.length_pos address
    have taken : decoder.interleave = some interleave := by
      rw [← represents.agrees _ (List.get_mem descriptors ⟨_, below⟩)]
      exact turns.agree _ (List.get_mem descriptors ⟨_, below⟩)
    have turn : interleave.owner descriptors.length address = (descriptors.get ⟨_, below⟩).node :=
      (represents.node_get ⟨_, below⟩).symm
    have holds := turns.holds address before _ (List.get_mem descriptors ⟨_, below⟩) turn
    refine ⟨⟨_, below⟩, fun other => ?_, ?_⟩
    · rw [NodeDescriptor.Claims, turns.agree _ (List.get_mem descriptors other), represents.node_get]
      constructor
      · rintro ⟨_, mine⟩
        exact Fin.ext (mine interleave rfl).symm
      · rintro rfl
        refine ⟨holds, ?_⟩
        rintro _ ⟨⟩
        rfl
    · rw [represents.decode_interleaved taken before (List.get_mem descriptors ⟨_, below⟩) turn,
        if_pos (AddressRange.contains_iff_mem.2 holds)]

/-- **The check accepts exactly the lists that share out the space, and the decoder that it gives
resolves each address to the one descriptor that claims it.** -/
theorem verifyCoverage_accepts_exactly_shares (total : UInt64) (descriptors : List NodeDescriptor) :
    ((∃ decoder, verifyCoverage total descriptors = .ok decoder) ↔ SharesOut total descriptors) ∧
      ∀ decoder, verifyCoverage total descriptors = .ok decoder →
        (∀ address < total, ∃ owner : Fin descriptors.length,
          (∀ other, (descriptors.get other).Claims descriptors.length address ↔ other = owner) ∧
            decoder.decode address = .ok (some (descriptors.get owner).node)) ∧
        (∀ address, total ≤ address → decoder.decode address = .ok none) ∧
        ∀ descriptor ∈ descriptors, descriptor.range.last ≤ total - 1 := by
  refine ⟨⟨?_, verifyCoverage_of_sharesOut⟩, fun decoder accepted => ⟨?_, ?_, ?_⟩⟩
  · rintro ⟨decoder, accepted⟩
    exact sharesOut_of_verifyCoverage accepted
  · exact fun address before => exists_claimant accepted before
  · exact fun address outside => (verifyCoverage_represents accepted).decode_of_total_le outside
  · intro descriptor member
    have shares := sharesOut_of_verifyCoverage accepted
    exact (Coverage.le_last_iff_lt_total shares.memory).2 (shares.inside descriptor member)

/-- Two nodes that take turns of 64 bytes in a space of 192. -/
def turnsOfTwo : List NodeDescriptor :=
  [⟨0, ⟨0, 191, by decide⟩, some ⟨64, 128⟩⟩, ⟨1, ⟨64, 127, by decide⟩, some ⟨64, 128⟩⟩]

theorem turnsOfTwo_accepted :
    verifyCoverage 192 turnsOfTwo = .ok ⟨192, some ⟨64, 128⟩, turnsOfTwo.map NodeDescriptor.range⟩ ∧
      (70 : UInt64) < 192 ∧ ∃ owner : Fin turnsOfTwo.length,
        (∀ other, (turnsOfTwo.get other).Claims turnsOfTwo.length 70 ↔ other = owner) ∧
          AddressDecoder.decode ⟨192, some ⟨64, 128⟩, turnsOfTwo.map NodeDescriptor.range⟩ 70 =
            .ok (some (turnsOfTwo.get owner).node) :=
  ⟨rfl, by decide,
    ((verifyCoverage_accepts_exactly_shares 192 turnsOfTwo).2 _ rfl).1 70 (by decide)⟩

end Partitions

end MemoryFabric

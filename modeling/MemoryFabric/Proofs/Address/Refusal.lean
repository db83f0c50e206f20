import MemoryFabric.Proofs.Address.Coverage

/-!
# Refused partitions

The check of a partition stops at the first thing that is wrong and reports it: a text, and the nodes at fault.
Every report is true (`Coverage.TrueReport`).  An overlap is an address in the ranges of two nodes, a gap is a
part of the space that no range reaches into, and an address outside the range of its node is decoded to
nobody.  The ranges without turns are followed only up to the first break; since they are sorted, nothing behind
the break fills the gap.

Main statements: **`verifyCoverage_reports_truth`**, and **`coverage_never_faults`**: whatever the words of the
descriptors are, no step of the check over- or underflows, divides by zero or reads past the end of a list, and
nor does a decoder that has been made.
-/

namespace MemoryFabric

set_option autoImplicit false

namespace Coverage

/-! ## Reports -/

/-- The node of one of the descriptors has a range. -/
def HasRange (descriptors : List NodeDescriptor) (node : Nat) (range : AddressRange) : Prop :=
  ∃ descriptor ∈ descriptors, descriptor.node = node ∧ descriptor.range = range

/-- There are addresses of the space from `first` to `last`, and no range holds any of them. -/
structure Unowned (total : UInt64) (descriptors : List NodeDescriptor) (first last : UInt64) : Prop where
  nonempty : first ≤ last
  inside : last < total
  unowned : ∀ address, first ≤ address → address ≤ last →
    ∀ descriptor ∈ descriptors, address ∉ descriptor.range

/-- The range of every named node ends in front of `first` or begins behind `last`, with nothing between. -/
def Borders (descriptors : List NodeDescriptor) (first last : UInt64) (nodes : List Nat) : Prop :=
  ∀ node ∈ nodes, ∃ range, HasRange descriptors node range ∧
    (range.last.toNat + 1 = first.toNat ∨ last.toNat + 1 = range.first.toNat)

/-- A report that names nodes and has a text is true of the descriptors of a decoder. -/
inductive TrueReport (decoder : AddressDecoder) (total : UInt64) (descriptors : List NodeDescriptor) :
    List Nat → String → Prop
  /-- The range of the node ends behind the space. -/
  | pastEnd {node : Nat} {range : AddressRange} (known : HasRange descriptors node range)
      (past : total ≤ range.last) :
      TrueReport decoder total descriptors [node]
        s!"node {node} range {range.text} extends past the last address {Text.hexadecimal (total - 1)}"
  /-- The first granule of the node is elsewhere. -/
  | misaligned {node : Nat} {range : AddressRange} {interleave : Interleave} {first : UInt64}
      (known : HasRange descriptors node range) (turns : decoder.interleave = some interleave)
      (granule : first.toNat = node * interleave.granule.toNat) (elsewhere : range.first ≠ first) :
      TrueReport decoder total descriptors [node]
        s!"node {node} range {range.text} does not start at its first granule {Text.hexadecimal first}"
  /-- It is the turn of the node, but its range does not hold the address, which is decoded to nobody. -/
  | stray {node : Nat} {range : AddressRange} {interleave : Interleave} {address : UInt64}
      (known : HasRange descriptors node range) (turns : decoder.interleave = some interleave)
      (inside : address < total)
      (turn : address.toNat / interleave.granule.toNat % descriptors.length = node)
      (outside : address ∉ range) (undecoded : decoder.decode address = .ok none) :
      TrueReport decoder total descriptors [node]
        s!"address {Text.hexadecimal address} decodes to node {node} outside its range {range.text}"
  /-- The ranges of two nodes hold the address. -/
  | overlap {first second : Nat} {other range : AddressRange} {address : UInt64}
      (known_first : HasRange descriptors first other) (known_second : HasRange descriptors second range)
      (different : first ≠ second) (holds_first : address ∈ other) (holds_second : address ∈ range) :
      TrueReport decoder total descriptors [first, second]
        s!"range {range.text} overlaps at {Text.hexadecimal address}"
  /-- Nobody owns the addresses, which lie beside the ranges of the nodes. -/
  | hole {nodes : List Nat} {first last : UInt64} (unowned : Unowned total descriptors first last)
      (borders : Borders descriptors first last nodes) :
      TrueReport decoder total descriptors nodes
        s!"addresses [{Text.hexadecimal first}, {Text.hexadecimal last}] are not owned"
  /-- Nobody owns the addresses at the end of the space. -/
  | openEnd {nodes : List Nat} {first : UInt64} (unowned : Unowned total descriptors first (total - 1))
      (borders : Borders descriptors first (total - 1) nodes) :
      TrueReport decoder total descriptors nodes
        s!"addresses from {Text.hexadecimal first} to {Text.hexadecimal (total - 1)} are not owned"

theorem hasRange_of_mem {descriptors : List NodeDescriptor} {descriptor : NodeDescriptor}
    (member : descriptor ∈ descriptors) : HasRange descriptors descriptor.node descriptor.range :=
  ⟨descriptor, member, rfl, rfl⟩

/-! ## Ends and envelopes -/

/-- A reported range goes past the end. -/
theorem checkEnds_trueReport {decoder : AddressDecoder} {total : UInt64} {descriptors : List NodeDescriptor}
    {cause : PartitionError} (memory : total ≠ 0)
    (refused : checkEnds (total - 1) descriptors = .error cause) :
    TrueReport decoder total descriptors cause.nodes cause.detail := by
  suffices found : ∃ descriptor ∈ descriptors, total - 1 < descriptor.range.last ∧
      cause = .pastEnd descriptor.node descriptor.range (total - 1) by
    obtain ⟨descriptor, member, past, rfl⟩ := found
    refine .pastEnd (hasRange_of_mem member) (UInt64.not_lt.1 fun before => ?_)
    exact UInt64.not_le.2 past ((le_last_iff_lt_total memory).2 before)
  induction descriptors with
  | nil => cases refused
  | cons descriptor rest ih =>
      rw [checkEnds] at refused
      split at refused
      · next past =>
          cases refused
          exact ⟨descriptor, List.mem_cons_self, past, rfl⟩
      · obtain ⟨found, member, past⟩ := ih refused
        exact ⟨found, List.mem_cons_of_mem _ member, past⟩

section Envelopes

variable {decoder : AddressDecoder} {total : UInt64} {descriptors : List NodeDescriptor}
  {interleave : Interleave}

/-- The first envelope is reported that begins elsewhere or ends in front of the node's last address. -/
theorem checkEnvelopes_error (represents : decoder.Represents total descriptors)
    (turns : decoder.interleave = some interleave) {checkedOnes : List NodeDescriptor}
    (below : ∀ descriptor ∈ checkedOnes, descriptor.node < descriptors.length)
    {failure : Failure PartitionError}
    (refused : checkEnvelopes decoder interleave.granule checkedOnes = .error failure) :
    ∃ descriptor ∈ checkedOnes,
      (∃ first : UInt64, first.toNat = descriptor.node * interleave.granule.toNat ∧
        descriptor.range.first ≠ first ∧
          failure = .reported (.misaligned descriptor.node descriptor.range first)) ∨
      ∃ address < total, interleave.owner descriptors.length address = descriptor.node ∧
        descriptor.range.last < address ∧
          failure = .reported (.stray address descriptor.node descriptor.range) := by
  induction checkedOnes with
  | nil => cases refused
  | cons descriptor rest ih =>
      obtain ⟨head_below, rest_below⟩ := List.forall_mem_cons.1 below
      obtain ⟨last, found, owned⟩ : ∃ last,
          decoder.lastOwned descriptor.node interleave.granule = .ok last ∧
            ∀ address ∈ last, address < total ∧
              interleave.owner descriptors.length address = descriptor.node := by
        rcases represents.lastOwned_spec turns head_below with ⟨last, found, owned, _⟩ | ⟨found, _⟩
        · exact ⟨some last, found, by rintro _ ⟨⟩; exact owned⟩
        · exact ⟨none, found, nofun⟩
      rw [checkEnvelopes_cons represents turns head_below found] at refused
      split at refused
      · next elsewhere =>
          cases refused
          refine ⟨descriptor, List.mem_cons_self, .inl ⟨_, ?_, elsewhere, rfl⟩⟩
          exact Word.toNat_ofNat (first_granule_lt represents turns head_below)
      · split at refused
        · next address stray =>
            cases refused
            obtain ⟨member, past⟩ := Option.filter_eq_some_iff.1 stray
            obtain ⟨inside, turn⟩ := owned address member
            exact ⟨descriptor, List.mem_cons_self, .inr ⟨address, inside, turn, of_decide_eq_true past, rfl⟩⟩
        · obtain ⟨culprit, member, found⟩ := ih rest_below refused
          exact ⟨culprit, List.mem_cons_of_mem _ member, found⟩

/-- What is reported about envelopes is true: a stray address is not decoded. -/
theorem checkEnvelopes_trueReport (represents : decoder.Represents total descriptors)
    (turns : decoder.interleave = some interleave) {failure : Failure PartitionError}
    (refused : checkEnvelopes decoder interleave.granule descriptors = .error failure) :
    ∃ cause, failure = .reported cause ∧
      TrueReport decoder total descriptors cause.nodes cause.detail := by
  obtain ⟨descriptor, member, ⟨first, granule, elsewhere, rfl⟩ | ⟨address, inside, turn, stray, rfl⟩⟩ :=
    checkEnvelopes_error represents turns (fun _ member => represents.node_lt_length member) refused
  · exact ⟨_, rfl, .misaligned (hasRange_of_mem member) turns granule elsewhere⟩
  · have outside : address ∉ descriptor.range := fun holds => UInt64.not_le.2 stray holds.2
    refine ⟨_, rfl, .stray (hasRange_of_mem member) turns inside turn outside ?_⟩
    rw [represents.decode_interleaved turns inside member turn,
      if_neg (mt AddressRange.contains_iff_mem.1 outside)]

end Envelopes

/-! ## Ranges that break off -/

/-- The node of the last of some ranges, or the one before all of them. -/
def lastNode (before : Option Nat) (descriptors : List NodeDescriptor) : Option Nat :=
  (descriptors.getLast?.map NodeDescriptor.node).or before

theorem lastNode_cons {before : Option Nat} {descriptor : NodeDescriptor} {rest : List NodeDescriptor} :
    lastNode (some descriptor.node) rest = lastNode before (descriptor :: rest) := by
  rw [lastNode, lastNode, List.getLast?_cons]
  cases rest.getLast? with
  | none => rfl
  | some last => rfl

section Follow

variable {next stop total : UInt64} {before : Option Nat} {descriptors front rest : List NodeDescriptor}
  {descriptor : NodeDescriptor}

/-- **Ranges follow one another to the end, or up to the first that begins elsewhere**, which then overlaps the
one in front of it or leaves a hole. -/
theorem follow_cases (next : UInt64) (before : Option Nat) (descriptors : List NodeDescriptor) :
    (∃ stop, Follows next descriptors stop ∧
        follow next before descriptors = .ok (stop, lastNode before descriptors)) ∨
      ∃ front descriptor rest stop, descriptors = front ++ descriptor :: rest ∧ Follows next front stop ∧
        (descriptor.range.first < stop ∧ follow next before descriptors =
            Attempt.report (.overlap (lastNode before front) descriptor.node descriptor.range) ∨
          stop < descriptor.range.first ∧ follow next before descriptors =
            Attempt.report (.hole (lastNode before front) descriptor.node stop
              (descriptor.range.first - 1))) := by
  induction descriptors generalizing next before with
  | nil => exact .inl ⟨next, .nil next, rfl⟩
  | cons head tail ih =>
      rw [follow_cons]
      by_cases joined : head.range.first = next
      · subst joined
        rw [if_pos rfl]
        rcases ih (Word.wrappingSucc head.range.last) (some head.node) with
          ⟨stop, follows, ends⟩ | ⟨front, descriptor, rest, stop, rfl, follows, breaks⟩
        · exact .inl ⟨stop, .cons follows, by rw [ends, lastNode_cons]⟩
        · rw [@lastNode_cons before] at breaks
          exact .inr ⟨head :: front, descriptor, rest, stop, rfl, .cons follows, breaks⟩
      · rw [if_neg joined]
        refine .inr ⟨[], head, tail, next, rfl, .nil next, ?_⟩
        by_cases overlaps : head.range.first < next
        · exact .inl ⟨overlaps, if_pos overlaps⟩
        · have behind := UInt64.lt_of_le_of_ne (UInt64.not_lt.1 overlaps) (Ne.symm joined)
          exact .inr ⟨behind, if_neg overlaps⟩

theorem Follows.eq_of_nil (follows : Follows next [] stop) : stop = next := by
  cases follows with
  | nil => rfl

/-- The ranges reach the address behind the last of them. -/
theorem Follows.stop_eq (follows : Follows next descriptors stop)
    (last : descriptors.getLast? = some descriptor) : stop = Word.wrappingSucc descriptor.range.last := by
  induction follows with
  | nil next => cases last
  | @cons head rest stop tail ih =>
      rw [List.getLast?_cons] at last
      cases found : rest.getLast? with
      | some final =>
          rw [found] at last
          exact ih (found.trans last)
      | none =>
          rw [found] at last
          cases last
          rw [List.getLast?_eq_none_iff] at found
          subst found
          exact tail.eq_of_nil

variable (inside : ∀ descriptor ∈ descriptors, descriptor.range.last < total)

include inside in
/-- Ranges inside the space do not reach further than its end. -/
theorem Follows.stop_le (follows : Follows 0 descriptors stop) : stop ≤ total := by
  rw [UInt64.le_iff_toNat_le]
  cases last : descriptors.getLast? with
  | none =>
      rw [List.getLast?_eq_none_iff] at last
      subst last
      rw [follows.eq_of_nil]
      exact Nat.zero_le _
  | some descriptor =>
      have below := inside descriptor (List.mem_of_getLast? last)
      rw [follows.stop_eq last, Word.toNat_wrappingSucc below]
      exact UInt64.lt_iff_toNat_lt.1 below

include inside in
/-- No range holds an address that the ranges have not reached. -/
theorem Follows.not_mem (follows : Follows next descriptors stop) {address : UInt64}
    (behind : stop ≤ address) : ∀ descriptor ∈ descriptors, address ∉ descriptor.range := by
  intro descriptor member holds
  have held := holders_pos_of_mem member holds
  rw [(follows.holders_eq inside).2, if_neg fun between => UInt64.not_lt.2 behind between.2] at held
  exact Nat.lt_irrefl 0 held

end Follow

/-! ## Breaks -/

section Break

variable {decoder : AddressDecoder} {total stop last : UInt64} {descriptors front rest : List NodeDescriptor}
  {descriptor : NodeDescriptor}

/-- What the sorted ranges are made of. -/
theorem mem_of_byFirst_eq (split : byFirst descriptors = front ++ descriptor :: rest)
    {other : NodeDescriptor} :
    other ∈ descriptors ↔ other ∈ front ∨ other = descriptor ∨ other ∈ rest := by
  rw [← byFirst_perm.mem_iff, split, List.mem_append, List.mem_cons]

section Reached

variable (follows : Follows 0 front stop) (inside : ∀ other ∈ front, other.range.last < total)

include follows inside

/-- The range of the last node ends in front of the address that is reached. -/
theorem lastNode_ends : ∀ node ∈ lastNode none front, ∃ range, HasRange front node range ∧
    range.last.toNat + 1 = stop.toNat := by
  intro node member
  rw [lastNode, Option.or_none] at member
  obtain ⟨final, found, rfl⟩ := Option.map_eq_some_iff.1 member
  have among := List.mem_of_getLast? found
  refine ⟨final.range, hasRange_of_mem among, ?_⟩
  rw [follows.stop_eq found, Word.toNat_wrappingSucc (inside final among)]

/-- A range that begins in front of the address that is reached begins inside the last range. -/
theorem exists_overlapped (sorted : ∀ other ∈ front, other.range.first ≤ descriptor.range.first)
    (overlaps : descriptor.range.first < stop) :
    ∃ other ∈ front, lastNode none front = some other.node ∧ descriptor.range.first ∈ other.range := by
  cases found : front.getLast? with
  | none =>
      rw [List.getLast?_eq_none_iff] at found
      subst found
      rw [follows.eq_of_nil, UInt64.lt_iff_toNat_lt] at overlaps
      exact absurd overlaps (Nat.not_lt_zero _)
  | some final =>
      have among := List.mem_of_getLast? found
      refine ⟨final, among, by rw [lastNode, found]; rfl, sorted final among, ?_⟩
      rw [follows.stop_eq found, UInt64.lt_iff_toNat_lt,
        Word.toNat_wrappingSucc (inside final among)] at overlaps
      exact UInt64.le_iff_toNat_le.2 (Nat.le_of_lt_succ overlaps)

end Reached

section Reports

variable (represents : decoder.Represents total descriptors)
  (inside : ∀ descriptor ∈ descriptors, descriptor.range.last < total)

include inside

/-- **A hole between sorted ranges is not owned**: no range behind it begins any earlier. -/
theorem hole_trueReport (split : byFirst descriptors = front ++ descriptor :: rest)
    (follows : Follows 0 front stop) (behind : stop < descriptor.range.first) :
    TrueReport decoder total descriptors ((lastNode none front).toList ++ [descriptor.node])
      s!"addresses [{Text.hexadecimal stop}, {Text.hexadecimal (descriptor.range.first - 1)}] are not owned" := by
  have mem_iff {other : NodeDescriptor} := @mem_of_byFirst_eq _ _ _ _ split other
  have inside_front : ∀ other ∈ front, other.range.last < total := fun other member =>
    inside other (mem_iff.2 (.inl member))
  have nonzero : descriptor.range.first ≠ 0 := by
    intro zero
    rw [zero, UInt64.lt_iff_toNat_lt] at behind
    exact Nat.not_lt_zero _ behind
  have last_toNat := Word.toNat_sub_one nonzero
  have first_pos := Word.toNat_pos nonzero
  have last_lt := inside descriptor (mem_iff.2 (.inr (.inl rfl)))
  have ordered := descriptor.range.ordered
  rw [UInt64.lt_iff_toNat_lt] at behind last_lt
  rw [UInt64.le_iff_toNat_le] at ordered
  refine .hole ⟨?_, ?_, ?_⟩ fun node member => ?_
  · rw [UInt64.le_iff_toNat_le]
    omega
  · rw [UInt64.lt_iff_toNat_lt]
    omega
  · intro address reached before other member holds
    have later := @byFirst_sorted descriptors
    rw [split, List.pairwise_append, List.pairwise_cons] at later
    have begins := UInt64.le_iff_toNat_le.1 holds.1
    rw [UInt64.le_iff_toNat_le, last_toNat] at before
    rcases mem_iff.1 member with earlier | rfl | behind_it
    · exact follows.not_mem inside_front reached other earlier holds
    · omega
    · have not_before := UInt64.le_iff_toNat_le.1 (later.2.1.1 other behind_it)
      omega
  · rcases List.mem_append.1 member with earlier | this
    · obtain ⟨range, ⟨other, among, named⟩, ends⟩ :=
        lastNode_ends follows inside_front node (Option.mem_toList.1 earlier)
      exact ⟨range, ⟨other, mem_iff.2 (.inl among), named⟩, .inl ends⟩
    · rw [List.mem_singleton.1 this]
      refine ⟨descriptor.range, hasRange_of_mem (mem_iff.2 (.inr (.inl rfl))), .inr ?_⟩
      omega

/-- **The end of the space is not owned when all ranges have been followed and do not reach it.** -/
theorem openEnd_trueReport (follows : Follows 0 (byFirst descriptors) stop) (short : stop ≠ total) :
    TrueReport decoder total descriptors (lastNode none (byFirst descriptors)).toList
      s!"addresses from {Text.hexadecimal stop} to {Text.hexadecimal (total - 1)} are not owned" := by
  have mem_iff {other : NodeDescriptor} : other ∈ byFirst descriptors ↔ other ∈ descriptors :=
    byFirst_perm.mem_iff
  have inside_sorted : ∀ other ∈ byFirst descriptors, other.range.last < total := fun other member =>
    inside other (mem_iff.1 member)
  have below := UInt64.lt_of_le_of_ne (follows.stop_le inside_sorted) short
  have nonzero : total ≠ 0 := by
    rintro rfl
    exact Nat.not_lt_zero _ (UInt64.lt_iff_toNat_lt.1 below)
  refine .openEnd ⟨(le_last_iff_lt_total nonzero).2 below, ?_, ?_⟩ fun node member => ?_
  · exact (le_last_iff_lt_total nonzero).1 (UInt64.le_refl _)
  · exact fun address reached _ other member =>
      follows.not_mem inside_sorted reached other (mem_iff.2 member)
  · obtain ⟨range, ⟨other, among, named⟩, ends⟩ :=
      lastNode_ends follows inside_sorted node (Option.mem_toList.1 member)
    exact ⟨range, ⟨other, mem_iff.1 among, named⟩, .inl ends⟩

include represents

/-- **A range that begins too early shares its first address with the range in front of it.** -/
theorem overlap_trueReport (split : byFirst descriptors = front ++ descriptor :: rest)
    (follows : Follows 0 front stop) (overlaps : descriptor.range.first < stop) :
    TrueReport decoder total descriptors ((lastNode none front).toList ++ [descriptor.node])
      s!"range {descriptor.range.text} overlaps at {Text.hexadecimal descriptor.range.first}" := by
  have mem_iff {other : NodeDescriptor} := @mem_of_byFirst_eq _ _ _ _ split other
  have sorted := @byFirst_sorted descriptors
  rw [split, List.pairwise_append] at sorted
  obtain ⟨other, among, final, holds⟩ := exists_overlapped follows
    (fun other member => inside other (mem_iff.2 (.inl member)))
    (fun other member => sorted.2.2 other member descriptor List.mem_cons_self) overlaps
  have distinct : ((byFirst descriptors).map NodeDescriptor.node).Nodup := by
    rw [(byFirst_perm.map NodeDescriptor.node).nodup_iff, represents.numbered]
    exact List.nodup_range
  rw [split, List.map_append, List.nodup_append] at distinct
  rw [final]
  exact .overlap (hasRange_of_mem (mem_iff.2 (.inl among)))
    (hasRange_of_mem (mem_iff.2 (.inr (.inl rfl))))
    (distinct.2.2 _ (List.mem_map_of_mem among) _ List.mem_cons_self) holds (first_mem descriptor.range)

/-- What is reported about ranges without turns is true. -/
theorem checkTiling_trueReport {failure : Failure PartitionError}
    (refused : checkTiling total (total - 1) descriptors = .error failure) :
    ∃ cause, failure = .reported cause ∧
      TrueReport decoder total descriptors cause.nodes cause.detail := by
  rw [checkTiling] at refused
  rcases follow_cases 0 none (byFirst descriptors) with
    ⟨stop, follows, ends⟩ | ⟨front, descriptor, rest, stop, split, follows, ⟨overlaps, ends⟩ | ⟨behind, ends⟩⟩
  · simp only [ends, Attempt.ok_bind] at refused
    split at refused
    · next short =>
        cases refused
        exact ⟨_, rfl, openEnd_trueReport inside follows short⟩
    · cases refused
  · rw [ends] at refused
    cases refused
    exact ⟨_, rfl, overlap_trueReport represents inside split follows overlaps⟩
  · rw [ends] at refused
    cases refused
    exact ⟨_, rfl, hole_trueReport inside split follows behind⟩

end Reports

end Break

end Coverage

/-! ## The whole check -/

section Check

variable {decoder : AddressDecoder} {total : UInt64} {descriptors : List NodeDescriptor}

theorem AddressDecoder.ofDescriptors_error (memory : total ≠ 0) {error : BuildError}
    (refused : ofDescriptors total descriptors = .error error) : ∃ cause, error = .partition cause := by
  cases descriptors with
  | nil =>
      simp only [ofDescriptors, if_neg memory] at refused
      cases refused
      exact ⟨_, rfl⟩
  | cons first rest =>
      simp only [ofDescriptors, if_neg memory] at refused
      obtain ⟨cause, _, rfl⟩ := Attempt.mapError_eq_error_iff.1 refused
      exact ⟨cause, rfl⟩

/-- Once a decoder can be made, the check stops at a range that goes past the end, or at the envelopes or ranges
inside the space. -/
theorem verifyCoverage_error_cases (represents : decoder.Represents total descriptors)
    {failure : Failure BuildError} (refused : verifyCoverage total descriptors = .error failure) :
    ∃ stopped : Failure PartitionError, failure = stopped.map .partition ∧
      ((∃ cause, stopped = .reported cause ∧ Coverage.checkEnds (total - 1) descriptors = .error cause) ∨
        (∀ descriptor ∈ descriptors, descriptor.range.last < total) ∧
          (match decoder.interleave with
            | some interleave => Coverage.checkEnvelopes decoder interleave.granule descriptors
            | none => Coverage.checkTiling total (total - 1) descriptors) = .error stopped) := by
  have made := Attempt.reporting_eq_ok_iff.2 (AddressDecoder.ofDescriptors_eq_ok_iff.2 represents)
  simp only [verifyCoverage, made, Word.sub_one_of_ne_zero represents.memory, Attempt.checked,
    Attempt.ok_bind] at refused
  rcases Attempt.bind_eq_error_iff.1 refused with refused | ⟨_, _, accepted⟩
  · obtain ⟨stopped, failed, rfl⟩ := Attempt.mapError_eq_error_iff.1 refused
    refine ⟨stopped, rfl, ?_⟩
    rcases Attempt.bind_eq_error_iff.1 failed with ends | ⟨_, ends, shares⟩
    · obtain ⟨cause, past, rfl⟩ := Attempt.reporting_eq_error_iff.1 ends
      exact .inl ⟨cause, rfl, past⟩
    · rw [Attempt.reporting_eq_ok_iff, Coverage.checkEnds_eq_ok_iff] at ends
      refine .inr ⟨fun descriptor member => ?_, shares⟩
      exact (Coverage.le_last_iff_lt_total represents.memory).1 (ends descriptor member)
  · cases accepted

/-- What is reported about ranges inside the space is true. -/
theorem shares_trueReport (represents : decoder.Represents total descriptors)
    (inside : ∀ descriptor ∈ descriptors, descriptor.range.last < total)
    {stopped : Failure PartitionError}
    (refused : (match decoder.interleave with
      | some interleave => Coverage.checkEnvelopes decoder interleave.granule descriptors
      | none => Coverage.checkTiling total (total - 1) descriptors) = .error stopped) :
    ∃ cause, stopped = .reported cause ∧
      Coverage.TrueReport decoder total descriptors cause.nodes cause.detail := by
  cases turns : decoder.interleave with
  | none =>
      rw [turns] at refused
      exact Coverage.checkTiling_trueReport represents inside refused
  | some interleave =>
      rw [turns] at refused
      exact Coverage.checkEnvelopes_trueReport represents turns refused

/-- A space that is not empty is refused for its partition only; the check never faults. -/
theorem verifyCoverage_error (memory : total ≠ 0) {failure : Failure BuildError}
    (refused : verifyCoverage total descriptors = .error failure) :
    ∃ cause, failure = .reported (.partition cause) := by
  rcases Attempt.bind_eq_error_iff.1 refused with unmade | ⟨decoder, made, _⟩
  · obtain ⟨error, cause_eq, rfl⟩ := Attempt.reporting_eq_error_iff.1 unmade
    obtain ⟨cause, rfl⟩ := AddressDecoder.ofDescriptors_error memory cause_eq
    exact ⟨cause, rfl⟩
  · rw [Attempt.reporting_eq_ok_iff, AddressDecoder.ofDescriptors_eq_ok_iff] at made
    obtain ⟨_, rfl, ⟨cause, rfl, _⟩ | ⟨inside, shares⟩⟩ := verifyCoverage_error_cases made refused
    · exact ⟨cause, rfl⟩
    · obtain ⟨cause, rfl, _⟩ := shares_trueReport made inside shares
      exact ⟨cause, rfl⟩

/-- **What the check reports is true**: of descriptors that a decoder can be made from, a refusal names nodes
and addresses at fault, and it is never a fault. -/
theorem verifyCoverage_reports_truth {failure : Failure BuildError}
    (made : AddressDecoder.ofDescriptors total descriptors = .ok decoder)
    (refused : verifyCoverage total descriptors = .error failure) :
    ∃ cause : PartitionError, failure = .reported (.partition cause) ∧
      Coverage.TrueReport decoder total descriptors cause.nodes cause.detail := by
  have represents := AddressDecoder.ofDescriptors_eq_ok_iff.1 made
  obtain ⟨_, rfl, ⟨cause, rfl, ends⟩ | ⟨inside, shares⟩⟩ := verifyCoverage_error_cases represents refused
  · exact ⟨cause, rfl, Coverage.checkEnds_trueReport represents.memory ends⟩
  · obtain ⟨cause, rfl, truth⟩ := shares_trueReport represents inside shares
    exact ⟨cause, rfl, truth⟩

/-- A small range inside a large one, with a third behind it. -/
def nestedRanges : List NodeDescriptor :=
  [⟨0, ⟨0, 199, by decide⟩, none⟩, ⟨1, ⟨100, 149, by decide⟩, none⟩, ⟨2, ⟨150, 299, by decide⟩, none⟩]

/-- The small range is reported as overlapping the large one. -/
theorem verifyCoverage_reports_nested :
    AddressDecoder.ofDescriptors 300 nestedRanges =
        .ok ⟨300, none, nestedRanges.map NodeDescriptor.range⟩ ∧
      verifyCoverage 300 nestedRanges =
        .error (.reported (.partition (.overlap (some 0) 1 ⟨100, 149, by decide⟩))) ∧
      Coverage.TrueReport ⟨300, none, nestedRanges.map NodeDescriptor.range⟩ 300 nestedRanges [0, 1]
        "range [0x64, 0x95] overlaps at 0x64" := by
  have made : AddressDecoder.ofDescriptors 300 nestedRanges =
      .ok ⟨300, none, nestedRanges.map NodeDescriptor.range⟩ := rfl
  have sorted : Coverage.byFirst nestedRanges = nestedRanges := List.mergeSort_of_pairwise (by decide)
  have tiled : Coverage.checkTiling 300 299 nestedRanges =
      .error (.reported (.overlap (some 0) 1 ⟨100, 149, by decide⟩)) := by
    rw [Coverage.checkTiling, sorted]
    rfl
  have refused : verifyCoverage 300 nestedRanges =
      .error (.reported (.partition (.overlap (some 0) 1 ⟨100, 149, by decide⟩))) := by
    rw [verifyCoverage, made]
    show (Except.mapError (Failure.map BuildError.partition) (Coverage.checkTiling 300 299 nestedRanges) >>=
      fun _ => _) = _
    rw [tiled]
    rfl
  obtain ⟨_, same, truth⟩ := verifyCoverage_reports_truth made refused
  cases same
  exact ⟨made, refused, truth⟩

/-! ## No faults -/

namespace AddressDecoder.Represents

/-- It is always the turn of some node. -/
theorem exists_owner (represents : decoder.Represents total descriptors) (interleave : Interleave)
    (address : UInt64) :
    ∃ descriptor ∈ descriptors, interleave.owner descriptors.length address = descriptor.node := by
  have below := interleave.owner_lt represents.length_pos address
  have found := List.getElem?_eq_getElem below
  exact ⟨_, List.mem_of_getElem? found, (represents.node_of_getElem? found).symm⟩

/-- Every address is decoded, to a node or to nobody. -/
theorem exists_decode (represents : decoder.Represents total descriptors) (address : UInt64) :
    ∃ owner, decoder.decode address = .ok owner := by
  by_cases outside : total ≤ address
  · exact ⟨_, represents.decode_of_total_le outside⟩
  · have inside := UInt64.not_le.1 outside
    cases turns : decoder.interleave with
    | none => exact ⟨_, represents.decode_contiguous turns inside⟩
    | some interleave =>
        obtain ⟨descriptor, member, turn⟩ := represents.exists_owner interleave address
        exact ⟨_, represents.decode_interleaved turns inside member turn⟩

/-- The stride of a decoder is a word. -/
theorem stride_lt (represents : decoder.Represents total descriptors) {interleave : Interleave}
    (turns : decoder.interleave = some interleave) :
    interleave.granule.toNat * descriptors.length < Word.count := by
  rw [(represents.turns interleave turns).2]
  exact Word.toNat_lt_count interleave.stride

end AddressDecoder.Represents

theorem verifyCoverage_ne_fault (fault : Fault) : verifyCoverage total descriptors ≠ .error (.fault fault) := by
  intro faulted
  by_cases memory : total = 0
  · subst memory
    cases faulted
  · obtain ⟨_, same⟩ := verifyCoverage_error memory faulted
    cases same

/-- **The arithmetic on addresses never faults**, whatever the descriptors say.  The check accepts them or
reports an error.  A decoder is made only where a stride of one granule for each node is a word; then every
address is decoded, and the last address of every node is found. -/
theorem coverage_never_faults (total : UInt64) (descriptors : List NodeDescriptor) :
    (∀ fault, verifyCoverage total descriptors ≠ .error (.fault fault)) ∧
      ∀ decoder, AddressDecoder.ofDescriptors total descriptors = .ok decoder →
        (∀ address, ∃ owner, decoder.decode address = .ok owner) ∧
          ∀ interleave, decoder.interleave = some interleave →
            interleave.granule ≠ 0 ∧ interleave.granule.toNat * descriptors.length < Word.count ∧
              ∀ node < descriptors.length, ∃ last,
                decoder.lastOwned node interleave.granule = .ok last := by
  refine ⟨verifyCoverage_ne_fault, fun decoder made => ?_⟩
  have represents := AddressDecoder.ofDescriptors_eq_ok_iff.1 made
  refine ⟨represents.exists_decode, fun interleave turns => ⟨?_, represents.stride_lt turns, ?_⟩⟩
  · exact (represents.turns interleave turns).1
  · exact fun node below => ⟨_, represents.lastOwned_eq turns below⟩

/-- A granule of more than half of all words: the end of the second turn is no word. -/
theorem coverage_never_faults_halfSpace :
    ∃ decoder, AddressDecoder.ofDescriptors 0xFFFFFFFFFFFFFFFF
        [⟨0, ⟨0, 0xFFFFFFFFFFFFFFFE, by decide⟩, some ⟨0x8000000000000001, 0x8000000000000001⟩⟩] = .ok decoder ∧
      (∃ owner, decoder.decode 0xFFFFFFFFFFFFFFFE = .ok owner) ∧
        ∃ last, decoder.lastOwned 0 0x8000000000000001 = .ok last := by
  have made : AddressDecoder.ofDescriptors 0xFFFFFFFFFFFFFFFF
      [⟨0, ⟨0, 0xFFFFFFFFFFFFFFFE, by decide⟩, some ⟨0x8000000000000001, 0x8000000000000001⟩⟩] =
        .ok ⟨0xFFFFFFFFFFFFFFFF, some ⟨0x8000000000000001, 0x8000000000000001⟩,
          [⟨0, 0xFFFFFFFFFFFFFFFE, by decide⟩]⟩ := rfl
  obtain ⟨decodes, turns⟩ := (coverage_never_faults _ _).2 _ made
  exact ⟨_, made, decodes _, (turns _ rfl).2.2 0 Nat.zero_lt_one⟩

end Check

end MemoryFabric

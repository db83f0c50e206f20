import MemoryFabric.Proofs.Fabric.FreshBuild

/-!
# Builds that report what is wrong

A build on a fresh graph should either succeed or report an error with nothing created, and no number that it
computes should leave its range on the way (`Topology.IsReported`).  The first phase computes with checks and
never faults; a configuration that it accepts is so small that working sets, capacities and port numbers stay
in range (`Settings.staysInRange_of_passes`).  Only the latency of the links is neither checked nor bounded:
main statement **`Topology.isReported_iff`**.
-/

namespace MemoryFabric

set_option autoImplicit false

/-! ## Latencies -/

namespace Latency

variable {nanoseconds : UInt64}

theorem ofNanoseconds_of_lt (fits : nanoseconds.toNat * 1000 < Word.count) :
    ofNanoseconds nanoseconds = .ok ⟨UInt64.ofNat (nanoseconds.toNat * 1000)⟩ := by
  rw [ofNanoseconds, Word.mul_of_lt fits]
  rfl

theorem ofNanoseconds_of_not_lt (large : ¬ nanoseconds.toNat * 1000 < Word.count) :
    ofNanoseconds nanoseconds = .error .overflow := by
  have product : Word.mul nanoseconds 1000 = .error .overflow := if_neg large
  rw [ofNanoseconds, product]
  rfl

end Latency

/-! ## Numbers that nothing checks -/

/-- The numbers that a build computes without a check are what they are without bounds. -/
structure Settings.StaysInRange (settings : Settings) : Prop where
  /-- The window of every processing node lies inside the memory. -/
  placement : ∀ index < settings.compute.processingNodes.toNat, ∃ placement,
    WorkingSet.ofNode index settings.memory.totalBytes = .ok placement ∧
      placement.heapBuffer.toNat = index * workingSetStride ∧
      placement.heapBuffer.toNat + placement.memorySize.toNat = settings.memory.totalBytes.toNat
  capacity : (Table.nodeCapacity settings).toNat =
    settings.memory.totalBytes.toNat / settings.memory.nodes.toNat
  busPorts : ∃ ports, MemoryFabric.busPorts busName settings.compute.processingNodes.toNat = .ok ports ∧
    ports.length = settings.compute.processingNodes.toNat
  routerPorts : ∃ ports, RouterPorts.ofMemoryNodes routerName settings.memory.nodes.toNat = .ok ports ∧
    ports.count = 1 + settings.memory.nodes.toNat ∧ ports.count < Word.count

/-- The window of a node ends at the last address of the memory. -/
theorem WorkingSet.placed_toNat {index : Nat} {total : UInt64}
    (inside : index * workingSetStride < total.toNat) :
    (placed index total).heapBuffer.toNat = index * workingSetStride ∧
      (placed index total).heapBuffer.toNat + (placed index total).memorySize.toNat = total.toNat := by
  have small : index * workingSetStride < Word.count := Nat.lt_trans inside (Word.toNat_lt_count total)
  have offset : (UInt64.ofNat (index * workingSetStride)).toNat = index * workingSetStride :=
    Word.toNat_ofNat small
  have below : UInt64.ofNat (index * workingSetStride) ≤ total := by
    rw [UInt64.le_iff_toNat_le, offset]
    exact Nat.le_of_lt inside
  refine ⟨offset, ?_⟩
  simp only [placed]
  rw [UInt64.toNat_sub_of_le _ _ below, offset]
  omega

theorem Table.nodeCapacity_toNat {settings : Settings} (inhabited : settings.memory.nodes.toNat ≠ 0) :
    (nodeCapacity settings).toNat =
      settings.memory.totalBytes.toNat / settings.memory.nodes.toNat := by
  have largest : max settings.memory.nodes 1 = settings.memory.nodes := by
    have positive : 1 ≤ settings.memory.nodes :=
      UInt64.le_iff_toNat_le.2 (Nat.one_le_iff_ne_zero.2 inhabited)
    rw [show max settings.memory.nodes 1 = if settings.memory.nodes ≤ 1 then 1 else settings.memory.nodes
      from rfl]
    split
    · next single => exact UInt64.le_antisymm positive single
    · rfl
  rw [nodeCapacity, largest, UInt64.toNat_div]

/-- **A configuration that passes the checks keeps all of these numbers in range.** -/
theorem Settings.staysInRange_of_passes {settings : Settings} (passes : settings.Passes) :
    settings.StaysInRange := by
  obtain ⟨descriptors, decoder, checked, shared, covered⟩ := passes
  have sound := isSound_of_check checked
  refine ⟨fun index below => ?_, Table.nodeCapacity_toNat sound.memoryNodes, ?_, ?_⟩
  · have inside := sound.inside index below
    exact ⟨_, WorkingSet.ofNode_of_lt inside, WorkingSet.placed_toNat inside⟩
  · refine ⟨_, busPorts_eq busName sound.processingNodes, ?_⟩
    rw [List.length_map, List.length_range]
  · have nodes := nodes_le_of_partition shared
    have total := Word.toNat_lt_count settings.memory.totalBytes
    have count : (⟨routerPort routerName 0, (List.range settings.memory.nodes.toNat).map fun node =>
        routerPort routerName (node + 1)⟩ : RouterPorts).count = 1 + settings.memory.nodes.toNat := by
      rw [RouterPorts.count, List.length_map, List.length_range]
    refine ⟨_, RouterPorts.ofMemoryNodes_eq routerName sound.memoryNodes, count, ?_⟩
    rw [count]
    simp only [Word.count] at total ⊢
    omega

namespace Topology

variable {tracker : Tracker} {settings : Settings}

/-! ## Whole builds -/

/-- A build on a fresh graph returns, with nothing created unless it succeeds, and no arithmetic on the way
leaves its range. -/
structure IsReported (tracker : Tracker) (settings : Settings) : Prop where
  returns : ∃ result recorder, buildFresh tracker settings = .ok (result, recorder) ∧
    (∀ fault, result ≠ .error (.fault fault)) ∧ (result.isOk = false → recorder.graph = .empty)
  /-- The first phase never faults. -/
  checks : ∀ fault, Partitioned.ofSettings settings ≠ .error (.fault fault)
  numbers : settings.Passes → settings.StaysInRange

theorem ofSettings_of_passes (passes : settings.Passes) :
    ∃ partitioned, Partitioned.ofSettings settings = .ok partitioned := by
  rcases Partitioned.ofSettings_cases settings with ⟨partitioned, made, _⟩ | ⟨_, _, stops, _⟩
  · exact ⟨partitioned, made⟩
  · exact absurd stops (Partitioned.not_stopsWith_of_passes passes)

/-- **Every build reports what is wrong, or succeeds, exactly when the latency of the links in picoseconds is a
word or the checks fail before.**  The tracker is a new one, or any other with enough identifiers left. -/
theorem isReported_iff (room : tracker.IsFresh ∨ tracker.HasRoom (requiredRoom settings)) :
    IsReported tracker settings ↔
      (settings.Passes → settings.timing.linkLatency.toNat * 1000 < Word.count) := by
  have enough : tracker.HasRoom (requiredRoom settings) := room.elim requiredRoom_of_isFresh id
  constructor
  · intro reported passes
    by_contra large
    -- The latency is computed in the third phase, when there is no check left to stop the build.
    obtain ⟨partitioned, made⟩ := ofSettings_of_passes passes
    rw [requiredRoom, made] at enough
    obtain ⟨recorder, stopped, _⟩ :=
      buildFresh_overflow made (Latency.ofNanoseconds_of_not_lt large) enough
    obtain ⟨result, other, built, fine, _⟩ := reported.returns
    cases stopped.symm.trans built
    exact fine _ rfl
  · intro fits
    rcases Partitioned.ofSettings_cases settings with
      ⟨partitioned, made, isFor⟩ | ⟨error, refused, _, _⟩
    · rw [requiredRoom, made] at enough
      obtain ⟨topology, recorder, built, _⟩ :=
        buildFresh_of_hasRoom made (Latency.ofNanoseconds_of_lt (fits isFor.passes)) enough
      refine ⟨⟨_, recorder, built, by simp, fun failed => ?_⟩, by simp [made],
        Settings.staysInRange_of_passes⟩
      cases failed
    · rw [requiredRoom, refused] at enough
      obtain ⟨recorder, built, empty⟩ := buildFresh_refused refused enough
      exact ⟨⟨_, recorder, built, by simp, fun _ => empty⟩, by simp [refused],
        Settings.staysInRange_of_passes⟩

/-- The default configuration under a tracker that writes nothing. -/
theorem isReported_default : Tracker.silent.IsFresh ∧ IsReported .silent {} :=
  ⟨.silent, (isReported_iff (.inl .silent)).2 fun _ => by decide⟩

/-- The greatest latency in an otherwise default configuration: the checks pass, and the build faults when it
has created twelve components. -/
theorem not_isReported_greatest_latency : ∃ settings : Settings,
    settings = { timing := { linkLatency := Word.greatest } } ∧ settings.Passes ∧
      (∃ recorder, buildFresh .silent settings = .ok (.error (.fault .overflow), recorder) ∧
        recorder.graph.components.size = 12) ∧ ¬ IsReported .silent settings := by
  obtain ⟨partitioned, made, length⟩ : ∃ partitioned,
      Partitioned.ofSettings { timing := { linkLatency := Word.greatest } } = .ok partitioned ∧
        partitioned.nodeComponents.length = 12 := ⟨_, rfl, by decide +kernel⟩
  obtain ⟨recorder, stopped, created⟩ := @buildFresh_overflow .silent _ _ _ made
    (Latency.ofNanoseconds_of_not_lt (by decide)) trivial
  refine ⟨_, rfl, (Partitioned.isFor_of_ofSettings made).passes, ⟨recorder, stopped, ?_⟩, ?_⟩
  · rw [created, ComponentGraph.pushAll_size, length]
    rfl
  · intro reported
    obtain ⟨result, other, built, fine, _⟩ := reported.returns
    cases stopped.symm.trans built
    exact fine _ rfl

end Topology

end MemoryFabric

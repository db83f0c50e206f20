import MemoryFabric.Proofs.Fabric.Outcome

/-!
# Builds on fresh graphs

The outcome of a build on a fresh graph is decided by the checks of its first phase: it either succeeds, or
returns the first check that fails and leaves the graph empty.  No later phase can stop it, whatever the
numbers of nodes, the cores, the policy and the memory model, except that the tracker may run out of
identifiers.  A new tracker never does (`requiredRoom_of_isFresh`).

Main statement: **`buildFresh_decided_by_checks`**.
-/

namespace MemoryFabric

set_option autoImplicit false

namespace Topology

variable {settings : Settings} {tracker : Tracker}

/-- How many identifiers a graph and a build on it take: two for the graph, one for the fabric, and those of
the parts when there is a partition. -/
def requiredRoom (settings : Settings) : Nat :=
  match Partitioned.ofSettings settings with
  | .ok _ => 3 + entityCount settings
  | .error _ => 3

/-- The working sets and the granules leave room for all identifiers. -/
theorem entityCount_lt {partitioned : Partitioned} (isFor : partitioned.IsFor settings) :
    5 + entityCount settings < Word.count := by
  have total_fits := Word.toNat_lt_count settings.memory.totalBytes
  have last := isFor.sound.inside (settings.compute.processingNodes.toNat - 1)
    (Nat.sub_one_lt isFor.sound.processingNodes)
  have nodes := nodes_le_of_partition isFor.shared
  have narrow : Part.width (Core.ofSettings settings) ≤ 4 := by
    cases Core.ofSettings settings <;> simp [Part.width]
  have cluster : settings.compute.processingNodes.toNat * (Part.width (Core.ofSettings settings) + 1) ≤
      settings.compute.processingNodes.toNat * 5 := Nat.mul_le_mul_left _ (by omega)
  simp only [entityCount, Cluster.entityCount, workingSetStride, Word.count] at *
  omega

/-- **A new tracker has room for every build.** -/
theorem requiredRoom_of_isFresh (fresh : tracker.IsFresh) :
    tracker.HasRoom (requiredRoom settings) := by
  refine fresh.hasRoom ?_
  rw [requiredRoom]
  split
  · next made =>
      have fits := entityCount_lt (Partitioned.isFor_of_ofSettings made)
      omega
  · decide

/-- **The checks of the first phase decide how a build comes out.**  The tracker is a new one, or any other
with enough identifiers left. -/
theorem buildFresh_decided_by_checks (tracker : Tracker) (settings : Settings)
    (latency_fits : settings.timing.linkLatency.toNat * 1000 < Word.count)
    (room : tracker.IsFresh ∨ tracker.HasRoom (requiredRoom settings)) :
    ((∃ topology recorder, buildFresh tracker settings = .ok (.ok topology, recorder)) ↔
        settings.Passes) ∧
      (∀ topology recorder, buildFresh tracker settings = .ok (.ok topology, recorder) →
        recorder.graph.isFinalized = true) ∧
      (¬ settings.Passes → ∃ error recorder,
        buildFresh tracker settings = .ok (.error (.reported error), recorder) ∧
          settings.StopsWith error ∧ error.IsEarly ∧ recorder.graph = .empty) := by
  have enough : tracker.HasRoom (requiredRoom settings) := room.elim requiredRoom_of_isFresh id
  have fits : Latency.ofNanoseconds settings.timing.linkLatency =
      .ok ⟨UInt64.ofNat (settings.timing.linkLatency.toNat * 1000)⟩ := by
    rw [Latency.ofNanoseconds, Word.mul_of_lt latency_fits]
    rfl
  have closed : ∀ topology recorder, buildFresh tracker settings = .ok (.ok topology, recorder) →
      recorder.graph.isFinalized = true := by
    intro topology recorder built
    obtain ⟨_, _, _, _, _, _, _, _, _, graph_eq⟩ := buildFresh_ok built
    rw [graph_eq]
    rfl
  rcases Partitioned.ofSettings_cases settings with
    ⟨partitioned, made, isFor⟩ | ⟨error, refused, stops, early⟩
  · rw [requiredRoom, made] at enough
    obtain ⟨topology, recorder, built, _⟩ := buildFresh_of_hasRoom made fits enough
    exact ⟨⟨fun _ => isFor.passes, fun _ => ⟨topology, recorder, built⟩⟩, closed,
      fun fails => absurd isFor.passes fails⟩
  · rw [requiredRoom, refused] at enough
    obtain ⟨recorder, built, empty⟩ := buildFresh_refused refused enough
    refine ⟨⟨?_, fun passes => absurd stops (Partitioned.not_stopsWith_of_passes passes)⟩, closed,
      fun _ => ⟨error, recorder, built, stops, early, empty⟩⟩
    rintro ⟨topology, other, same⟩
    cases built.symm.trans same

theorem default_passes : ({} : Settings).Passes := by
  obtain ⟨_, _, _, _, made, _⟩ := default_built
  exact (Partitioned.isFor_of_ofSettings made).passes

/-- The default configuration under a tracker that writes nothing. -/
theorem buildFresh_default :
    (1 : UInt64).toNat * 1000 < Word.count ∧ Tracker.silent.IsFresh ∧
      ∃ topology recorder, buildFresh .silent {} = .ok (.ok topology, recorder) ∧
        recorder.graph.isFinalized = true := by
  have decided := buildFresh_decided_by_checks .silent {} (by decide) (.inl .silent)
  obtain ⟨topology, recorder, built⟩ := decided.1.2 default_passes
  exact ⟨by decide, .silent, topology, recorder, built, decided.2.1 topology recorder built⟩

/-- The fault that a build has stopped with. -/
def faultOf? : Except Fault (Built Topology × Recorder) → Option Fault
  | .ok (.error (.fault fault), _) => some fault
  | _ => none

theorem exists_of_faultOf? {outcome : Except Fault (Built Topology × Recorder)} {fault : Fault}
    (stopped : faultOf? outcome = some fault) :
    ∃ recorder, outcome = .ok (.error (.fault fault), recorder) := by
  rcases outcome with _ | ⟨⟨_ | _⟩ | _, recorder⟩
  case ok.error.fault cause =>
    cases stopped
    exact ⟨recorder, rfl⟩
  all_goals cases stopped

/-- A collecting tracker whose identifiers run out with the graph: the checks pass, but the build faults. -/
theorem buildFresh_out_of_identifiers :
    (1 : UInt64).toNat * 1000 < Word.count ∧ ({} : Settings).Passes ∧ ∃ recorder,
      buildFresh (.collecting 18446744073709551613 #[]) {} =
        .ok (.error (.fault .overflow), recorder) := by
  have stopped : faultOf? (buildFresh (.collecting 18446744073709551613 #[]) {}) = some .overflow := by
    decide +kernel
  exact ⟨by decide, default_passes, exists_of_faultOf? stopped⟩

end Topology

end MemoryFabric

import MemoryFabric.Proofs.Fabric.ReportedBuild

/-!
# Trackers look on

What is built does not depend on the tracker.  Trackers give different identifiers, are enabled for different
events, and notice different identifiers that are given twice; a build on a fresh graph asks a tracker for
identifiers only, and neither its result nor the graph contains one.  So a build that does not fault comes out
as its configuration says (`Topology.built_of_lasts`, `Topology.refused_of_lasts`), under any two trackers in
the same way.

A new tracker lasts for every build (`Topology.lasts_of_isFresh`), and so does a collecting one whose counter
leaves enough identifiers (`Topology.lasts_of_hasRoom`).

Main statement: **`Topology.buildFresh_same`**.
-/

namespace MemoryFabric

set_option autoImplicit false

namespace Topology

/-! ## The same fabric -/

/-- Two fabrics of one configuration that share out the addresses alike, with routers and ports alike. -/
structure SameFabric (first second : Topology) : Prop where
  settings : first.settings = second.settings
  descriptors : first.descriptors = second.descriptors
  decoder : first.decoder = second.decoder
  router : first.router = second.router
  routerPorts : first.routerPorts = second.routerPorts
  allocatedPorts : first.allocatedPorts = second.allocatedPorts
  connectedPorts : first.connectedPorts = second.connectedPorts

/-- Two builds that succeed with the same fabric, or report the same error.  No fault is the same as
another. -/
inductive SameResult : Built Topology → Built Topology → Prop
  | built {first second : Topology} (same : first.SameFabric second) : SameResult (.ok first) (.ok second)
  | refused (error : BuildError) : SameResult (.error (.reported error)) (.error (.reported error))

theorem IsOf.sameFabric {partitioned : Partitioned} {first second : Topology}
    (first_isOf : first.IsOf partitioned) (second_isOf : second.IsOf partitioned) :
    first.SameFabric second := by
  have same : first.toPartitioned = second.toPartitioned :=
    first_isOf.partitioned_eq.trans second_isOf.partitioned_eq.symm
  exact {
    settings := congrArg Partitioned.settings same
    descriptors := congrArg Partitioned.descriptors same
    decoder := congrArg Partitioned.decoder same
    router := first_isOf.router.trans second_isOf.router.symm
    routerPorts := first_isOf.routerPorts.trans second_isOf.routerPorts.symm
    allocatedPorts := first_isOf.allocated.trans second_isOf.allocated.symm
    connectedPorts := first_isOf.connected.trans second_isOf.connected.symm }

/-! ## Trackers that last -/

/-- The identifiers of the tracker last for a build on a fresh graph, which does not fault. -/
def Lasts (tracker : Tracker) (settings : Settings) : Prop :=
  ∃ result recorder, buildFresh tracker settings = .ok (result, recorder) ∧
    ∀ fault, result ≠ .error (.fault fault)

variable {tracker one other : Tracker} {settings : Settings} {partitioned : Partitioned}
  {latency : Latency}

/-- A build that does not fault reaches its phases and comes out as they do. -/
theorem phases_of_lasts (lasts : Lasts tracker settings) :
    ∃ fabric opened after, opened.graph = .empty ∧
      buildFresh tracker settings =
        .ok (((runPhases fabric settings).run.run Recorder.host opened).1, after) ∧
      after.graph = ((runPhases fabric settings).run.run Recorder.host opened).2.graph ∧
      ∀ fault, ((runPhases fabric settings).run.run Recorder.host opened).1 ≠ .error (.fault fault) := by
  obtain ⟨result, recorder, built, fine⟩ := lasts
  obtain ⟨started, started_eq, returned⟩ := Attempt.bind_eq_ok_iff.1 built
  have ran := Attempt.pure_eq_ok_iff.1 returned
  rcases Recorder.start_cases tracker with ⟨_, same, empty, _⟩ | ⟨_, _, failed⟩
  · cases started_eq.symm.trans same
    rcases Build.yields_createEntity started.top "fabric" .empty started empty with
      ⟨fabric, opened, created, kept, _⟩ | ⟨_, fault, after, failed⟩
    · obtain ⟨outcome, same⟩ := run_aroundPhases fabric settings opened
      rw [build, Build.run_bind_ok created] at ran
      rw [ran] at outcome same
      subst outcome
      exact ⟨fabric, opened, recorder, kept, built, same, fine⟩
    · rw [build, Build.run_bind_error failed] at ran
      cases ran
      exact absurd rfl (fine fault)
  · cases started_eq.symm.trans failed

/-- **A configuration with a partition is built under a tracker that lasts.** -/
theorem built_of_lasts (made : Partitioned.ofSettings settings = .ok partitioned)
    (fits : Latency.ofNanoseconds settings.timing.linkLatency = .ok latency)
    (lasts : Lasts tracker settings) :
    ∃ topology recorder, buildFresh tracker settings = .ok (.ok topology, recorder) ∧
      topology.IsOf partitioned ∧ recorder.graph = partitioned.graph latency := by
  obtain ⟨fabric, opened, after, empty, built, same, fine⟩ := phases_of_lasts lasts
  rcases yields_runPhases made fits fabric opened empty with
    ⟨topology, reached, ran, ⟨isOf, graph_eq⟩, _⟩ | ⟨_, fault, reached, ran⟩
  · rw [ran] at built same
    exact ⟨topology, after, built, isOf, same.trans graph_eq⟩
  · rw [ran] at fine
    exact absurd rfl (fine fault)

/-- **A configuration without a partition is refused under a tracker that lasts.** -/
theorem refused_of_lasts {failure : Failure BuildError}
    (refused : Partitioned.ofSettings settings = .error failure) (lasts : Lasts tracker settings) :
    ∃ recorder, buildFresh tracker settings = .ok (.error failure, recorder) ∧ recorder.graph = .empty := by
  obtain ⟨fabric, opened, after, empty, built, same, _⟩ := phases_of_lasts lasts
  rw [runPhases_refused refused] at built same
  exact ⟨after, built, same.trans empty⟩

theorem lasts_of_hasRoom (latency_fits : settings.timing.linkLatency.toNat * 1000 < Word.count)
    (room : tracker.HasRoom (requiredRoom settings)) : Lasts tracker settings := by
  rcases Partitioned.ofSettings_cases settings with ⟨partitioned, made, _⟩ | ⟨error, refused, _⟩
  · rw [requiredRoom, made] at room
    obtain ⟨topology, recorder, built, _⟩ :=
      buildFresh_of_hasRoom made (Latency.ofNanoseconds_of_lt latency_fits) room
    exact ⟨_, recorder, built, by simp⟩
  · rw [requiredRoom, refused] at room
    obtain ⟨recorder, built, _⟩ := buildFresh_refused refused room
    exact ⟨_, recorder, built, by simp⟩

theorem lasts_of_isFresh (latency_fits : settings.timing.linkLatency.toNat * 1000 < Word.count)
    (fresh : tracker.IsFresh) : Lasts tracker settings :=
  lasts_of_hasRoom latency_fits (requiredRoom_of_isFresh fresh)

/-- **Trackers do not influence what is built.**  Two fresh graphs under different trackers, on which the same
configuration is built, come to the same result and are the same afterwards, snapshots and all.  Each tracker
is a new one, or any other that has identifiers enough. -/
theorem buildFresh_same (latency_fits : settings.timing.linkLatency.toNat * 1000 < Word.count)
    (one_lasts : one.IsFresh ∨ Lasts one settings) (other_lasts : other.IsFresh ∨ Lasts other settings) :
    ∃ result recorder other_result other_recorder,
      buildFresh one settings = .ok (result, recorder) ∧
        buildFresh other settings = .ok (other_result, other_recorder) ∧
          SameResult result other_result ∧ recorder.graph = other_recorder.graph := by
  have one_lasts := one_lasts.elim (lasts_of_isFresh latency_fits) id
  have other_lasts := other_lasts.elim (lasts_of_isFresh latency_fits) id
  rcases Partitioned.ofSettings_cases settings with ⟨partitioned, made, _⟩ | ⟨error, refused, _⟩
  · have fits := Latency.ofNanoseconds_of_lt latency_fits
    obtain ⟨topology, recorder, built, isOf, graph_eq⟩ := built_of_lasts made fits one_lasts
    obtain ⟨other_topology, other_recorder, other_built, other_isOf, other_graph_eq⟩ :=
      built_of_lasts made fits other_lasts
    exact ⟨_, recorder, _, other_recorder, built, other_built, .built (isOf.sameFabric other_isOf),
      graph_eq.trans other_graph_eq.symm⟩
  · obtain ⟨recorder, built, empty⟩ := refused_of_lasts refused one_lasts
    obtain ⟨other_recorder, other_built, other_empty⟩ := refused_of_lasts refused other_lasts
    exact ⟨_, recorder, _, other_recorder, built, other_built, .refused error,
      empty.trans other_empty.symm⟩

/-- A group of new trackers, and a collecting tracker that begins with the identifier 7. -/
theorem buildFresh_same_collecting :
    ∃ result recorder other_result other_recorder,
      buildFresh (.several 2 [.ofRegistry (.empty .trace []), .silent]) {} = .ok (result, recorder) ∧
        buildFresh (.collecting 7 #[]) {} = .ok (other_result, other_recorder) ∧
          SameResult result other_result ∧ recorder.graph = other_recorder.graph := by
  have group : Tracker.IsFresh (.several 2 [.ofRegistry (.empty .trace []), .silent]) :=
    .several ⟨fun _ _ => rfl, trivial, trivial⟩
  have room : (Tracker.collecting 7 #[]).HasRoom (requiredRoom {}) :=
    show (7 : UInt64).toNat + requiredRoom {} < Word.count by decide +kernel
  exact buildFresh_same (by decide) (.inl group) (.inr (lasts_of_hasRoom (by decide) room))

end Topology

end MemoryFabric

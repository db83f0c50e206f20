import MemoryFabric.Fabric.Session
import MemoryFabric.Proofs.Fabric.Phases

/-!
# How a build comes out

A build on a fresh graph either stops in its first phase, and then the graph is still empty, or it goes
through all phases.  The tracker decides nothing but whether there is room for the entities, and the latency
of the links nothing but whether it is a word.
-/

namespace MemoryFabric

set_option autoImplicit false

/-! ## Builds that succeed -/

namespace Build

variable {α β : Type} {recorder after : Recorder} {build : Build α}

/-- A build in two steps succeeds when both steps do. -/
theorem run_bind_eq_ok_iff {rest : α → Build β} {value : β} :
    (build >>= rest).run.run Recorder.host recorder = (.ok value, after) ↔
      ∃ middle between, build.run.run Recorder.host recorder = (.ok middle, between) ∧
        (rest middle).run.run Recorder.host between = (.ok value, after) := by
  constructor
  · intro ran
    cases first : build.run.run Recorder.host recorder with
    | mk result between =>
        cases result with
        | ok middle => exact ⟨middle, between, rfl, (run_bind_ok first).symm.trans ran⟩
        | error failure => cases (run_bind_error first).symm.trans ran
  · rintro ⟨middle, between, first, second⟩
    exact (run_bind_ok first).trans second

theorem run_orRelease_eq_ok_iff {entities : List EntityHandle} {value : α} :
    (build.orRelease entities).run.run Recorder.host recorder = (.ok value, after) ↔
      build.run.run Recorder.host recorder = (.ok value, after) := by
  constructor
  · intro ran
    cases first : build.run.run Recorder.host recorder with
    | mk result between =>
        cases result with
        | ok middle => exact (run_orRelease_ok entities first).symm.trans ran
        | error failure =>
            obtain ⟨released, failed, _⟩ := run_orRelease_error entities first
            cases failed.symm.trans ran
  · exact run_orRelease_ok entities

/-- Letting go of entities changes neither the outcome nor the graph. -/
theorem run_orRelease (build : Build α) (entities : List EntityHandle) (recorder : Recorder) :
    ((build.orRelease entities).run.run Recorder.host recorder).1 =
        (build.run.run Recorder.host recorder).1 ∧
      ((build.orRelease entities).run.run Recorder.host recorder).2.graph =
        (build.run.run Recorder.host recorder).2.graph := by
  cases ran : build.run.run Recorder.host recorder with
  | mk outcome after =>
      cases outcome with
      | ok value =>
          rw [run_orRelease_ok entities ran]
          exact ⟨rfl, rfl⟩
      | error failure =>
          obtain ⟨released, stopped, kept⟩ := run_orRelease_error entities ran
          rw [stopped]
          exact ⟨rfl, kept⟩

end Build

namespace Topology

variable {recorder after : Recorder} {build : Build Topology} {fabric : EntityHandle}

theorem run_orReport_ok {topology : Topology} (fabric : EntityHandle)
    (first : build.run.run Recorder.host recorder = (.ok topology, after)) :
    (orReport build fabric).run.run Recorder.host recorder = (.ok topology, after) := by
  have step : (orReport build fabric).run.run Recorder.host recorder = _ :=
    Script.run_bind Recorder.host build.run _ recorder
  rw [step, first]
  rfl

/-- Reporting leaves the graph alone. -/
theorem reportFailure_graph (fabric : EntityHandle) (failure : Failure BuildError)
    (recorder : Recorder) :
    ((reportFailure fabric failure).run Recorder.host recorder).2.graph = recorder.graph := by
  cases failure <;> rfl

/-- A build that stops is reported then. -/
theorem run_orReport_of_error {failure : Failure BuildError} (fabric : EntityHandle)
    (first : build.run.run Recorder.host recorder = (.error failure, after)) :
    (orReport build fabric).run.run Recorder.host recorder =
      (.error failure, ((reportFailure fabric failure).run Recorder.host after).2) := by
  have step : (orReport build fabric).run.run Recorder.host recorder = _ :=
    Script.run_bind Recorder.host build.run _ recorder
  rw [step, first]
  exact Script.run_bind Recorder.host (reportFailure fabric failure) _ after

theorem run_orReport_error {failure : Failure BuildError} (fabric : EntityHandle)
    (first : build.run.run Recorder.host recorder = (.error failure, after)) :
    ∃ reported, (orReport build fabric).run.run Recorder.host recorder = (.error failure, reported) ∧
      reported.graph = after.graph :=
  ⟨_, run_orReport_of_error fabric first, reportFailure_graph fabric failure after⟩

theorem run_orReport_eq_ok_iff {topology : Topology} :
    (orReport build fabric).run.run Recorder.host recorder = (.ok topology, after) ↔
      build.run.run Recorder.host recorder = (.ok topology, after) := by
  constructor
  · intro ran
    cases first : build.run.run Recorder.host recorder with
    | mk result between =>
        cases result with
        | ok middle => exact (run_orReport_ok fabric first).symm.trans ran
        | error failure =>
            obtain ⟨reported, failed, _⟩ := run_orReport_error fabric first
            cases failed.symm.trans ran
  · exact run_orReport_ok fabric

/-- A report changes neither the outcome nor the graph. -/
theorem run_orReport (build : Build Topology) (fabric : EntityHandle) (recorder : Recorder) :
    ((orReport build fabric).run.run Recorder.host recorder).1 =
        (build.run.run Recorder.host recorder).1 ∧
      ((orReport build fabric).run.run Recorder.host recorder).2.graph =
        (build.run.run Recorder.host recorder).2.graph := by
  cases ran : build.run.run Recorder.host recorder with
  | mk outcome after =>
      cases outcome with
      | ok topology =>
          rw [run_orReport_ok fabric ran]
          exact ⟨rfl, rfl⟩
      | error failure =>
          obtain ⟨reported, stopped, kept⟩ := run_orReport_error fabric ran
          rw [stopped]
          exact ⟨rfl, kept⟩

/-! ## The phases one after another -/

/-- The phases up to the links. -/
def linkPhases (fabric : EntityHandle) (settings : Settings) : Build Linked := do
  let partitioned ← Partitioned.create fabric settings
  let populated ← partitioned.populate fabric
  populated.link fabric

/-- The last phase follows the others. -/
theorem runPhases_eq (fabric : EntityHandle) (settings : Settings) :
    runPhases fabric settings = linkPhases fabric settings >>= fun linked => linked.finish fabric := by
  simp only [runPhases, linkPhases, bind_assoc]

/-- What a build does around its phases changes neither their outcome nor their graph. -/
theorem run_aroundPhases (fabric : EntityHandle) (settings : Settings) (recorder : Recorder) :
    (((orReport (runPhases fabric settings) fabric).orRelease [fabric]).run.run Recorder.host recorder).1 =
        ((runPhases fabric settings).run.run Recorder.host recorder).1 ∧
      (((orReport (runPhases fabric settings) fabric).orRelease [fabric]).run.run
          Recorder.host recorder).2.graph =
        ((runPhases fabric settings).run.run Recorder.host recorder).2.graph := by
  obtain ⟨outcome, released⟩ := Build.run_orRelease (orReport (runPhases fabric settings) fabric)
    [fabric] recorder
  obtain ⟨same, reported⟩ := run_orReport (runPhases fabric settings) fabric recorder
  exact ⟨outcome.trans same, released.trans reported⟩

/-- How many entities a build creates besides the one of the fabric. -/
def entityCount (settings : Settings) : Nat :=
  Cluster.entityCount settings + settings.memory.nodes.toNat * 5 + 2

section Phases

variable {settings : Settings} {partitioned : Partitioned} {latency : Latency}

theorem yields_create (made : Partitioned.ofSettings settings = .ok partitioned)
    (fabric : EntityHandle) (before : ComponentGraph) :
    (Partitioned.create fabric settings).Yields 0 before fun value after =>
      value = partitioned ∧ after = before := by
  refine (Build.yields_ofBuilt made before).bind (Nat.le_refl 0) ?_
  rintro _ before ⟨rfl, rfl⟩
  refine (Build.yields_log _ _ _ _).bind (Nat.le_refl 0) ?_
  rintro _ before rfl
  exact Build.Yields.pure _ _ _

/-- **Up to the links everything is known of a configuration with a partition.** -/
theorem yields_linkPhases (made : Partitioned.ofSettings settings = .ok partitioned)
    (fits : Latency.ofNanoseconds settings.timing.linkLatency = .ok latency) (fabric : EntityHandle) :
    (linkPhases fabric settings).Yields (entityCount settings) .empty fun linked after =>
      linked.IsOf partitioned ∧ after = partitioned.linkedGraph latency := by
  have isFor := Partitioned.isFor_of_ofSettings made
  refine (yields_create made fabric .empty).bind (Nat.zero_le _) ?_
  rintro partitioned _ ⟨rfl, rfl⟩
  refine (isFor.yields_populate fabric).bind (Nat.le_add_right _ _) ?_
  rintro populated _ ⟨partitioned_eq, located, rfl⟩
  refine (isFor.yields_link fits partitioned_eq located fabric).weaken ?_ ?_
  · rw [entityCount]
    omega
  · rintro _ _ ⟨_, isOf, rfl⟩
    exact ⟨isOf, rfl⟩

/-- **A configuration with a partition is built as a whole.** -/
theorem yields_runPhases (made : Partitioned.ofSettings settings = .ok partitioned)
    (fits : Latency.ofNanoseconds settings.timing.linkLatency = .ok latency) (fabric : EntityHandle) :
    (runPhases fabric settings).Yields (entityCount settings) .empty fun topology after =>
      topology.IsOf partitioned ∧ after = partitioned.graph latency := by
  rw [runPhases_eq]
  refine (yields_linkPhases made fits fabric).bind (Nat.le_refl _) ?_
  rintro linked _ ⟨isOf, rfl⟩
  refine (isOf.yields_finish latency fabric).weaken (Nat.zero_le _) ?_
  rintro topology _ ⟨isOf, _, rfl⟩
  exact ⟨isOf, rfl⟩

/-- A configuration without a partition is refused before anything is created. -/
theorem runPhases_refused {failure : Failure BuildError}
    (refused : Partitioned.ofSettings settings = .error failure) (fabric : EntityHandle)
    (recorder : Recorder) :
    (runPhases fabric settings).run.run Recorder.host recorder = (.error failure, recorder) := by
  refine Build.run_bind_error (Build.run_bind_error ?_)
  rw [Build.ofBuilt, refused]
  rfl

/-- Links with a latency that is no word cannot be made. -/
theorem link_overflow {fault : Fault} {populated : Populated}
    (overflow : Latency.ofNanoseconds populated.settings.timing.linkLatency = .error fault)
    (fabric : EntityHandle) (recorder : Recorder) :
    ∃ after, (populated.link fabric).run.run Recorder.host recorder = (.error (.fault fault), after) ∧
      after.graph = recorder.graph := by
  refine Build.run_orRelease_error _ (Build.run_bind_error ?_)
  rw [overflow]
  rfl

/-- **With a latency that is no word the phases fault, at the latest when they have created all nodes.** -/
theorem linkPhases_overflow {fault : Fault} (made : Partitioned.ofSettings settings = .ok partitioned)
    (overflow : Latency.ofNanoseconds settings.timing.linkLatency = .error fault) (fabric : EntityHandle)
    (fresh : recorder.graph = .empty) :
    ∃ cause after, (linkPhases fabric settings).run.run Recorder.host recorder =
        (.error (.fault cause), after) ∧
      (recorder.HasRoom (entityCount settings) →
        cause = fault ∧ after.graph = ComponentGraph.empty.pushAll partitioned.nodeComponents) := by
  have isFor := Partitioned.isFor_of_ofSettings made
  rcases yields_create made fabric .empty recorder fresh with
    ⟨_, between, created, ⟨rfl, same_graph⟩, room⟩ | ⟨full, cause, after, failed⟩
  · rcases isFor.yields_populate fabric between same_graph with
      ⟨populated, later, grown, ⟨partitioned_eq, _, graph_eq⟩, _⟩ | ⟨full, cause, after, failed⟩
    · have same : populated.settings = settings := by rw [partitioned_eq, isFor.settings_eq]
      obtain ⟨after, stopped, kept⟩ := link_overflow (same.symm ▸ overflow) fabric later
      refine ⟨fault, after, ?_, fun _ => ⟨rfl, kept.trans graph_eq⟩⟩
      rw [linkPhases, Build.run_bind_ok created, Build.run_bind_ok grown, stopped]
    · refine ⟨cause, after, ?_, fun enough => absurd (room _ (enough.mono ?_)) full⟩
      · rw [linkPhases, Build.run_bind_ok created, Build.run_bind_error failed]
      · rw [Nat.zero_add, entityCount]
        exact Nat.le_add_right _ _
  · exact ⟨cause, after, Build.run_bind_error failed,
      fun enough => absurd (enough.mono (Nat.zero_le _)) full⟩

end Phases

end Topology

/-! ## Fresh graphs -/

/-- A fresh graph is empty, and its tracker has room for two entities less. -/
theorem Recorder.start_cases (tracker : Tracker) :
    (∃ recorder, start tracker = .ok recorder ∧ recorder.graph = .empty ∧
        ∀ spare, tracker.HasRoom (2 + spare) → recorder.HasRoom spare) ∨
      ¬ tracker.HasRoom 2 ∧ ∃ fault, start tracker = .error fault := by
  rcases (Tracking.start tracker).create_cases none "top" with
    ⟨top, tracking, created, room⟩ | ⟨full, fault, tracking, created⟩
  · rcases tracking.create_cases (some top) "graph" with
      ⟨entity, later, made, left⟩ | ⟨full, fault, later, made⟩
    · refine .inl ⟨⟨later.release top, .empty, top, entity, #[]⟩, ?_, rfl, fun spare enough => ?_⟩
      · simp only [start, created, Attempt.ok_bind, made]
        rfl
      · refine (Tracking.release_hasRoom later top).2 (left spare (room (1 + spare) ?_))
        rw [← Nat.add_assoc]
        exact enough
    · refine .inr ⟨fun enough => full (room 1 enough), fault, ?_⟩
      simp only [start, created, Attempt.ok_bind, made]
      rfl
  · refine .inr ⟨fun enough => full (enough.mono (by decide)), fault, ?_⟩
    simp only [start, created]
    rfl

namespace Topology

variable {tracker : Tracker} {settings : Settings} {recorder : Recorder} {topology : Topology}

/-- Build a fabric up to its links, on a fresh graph under a tracker. -/
def linkFresh (tracker : Tracker) (settings : Settings) : Except Fault (Built Linked × Recorder) := do
  let recorder ← Recorder.start tracker
  return (Build.createEntity recorder.top "fabric" >>= fun fabric =>
    linkPhases fabric settings).run.run Recorder.host recorder

/-- A build that succeeds goes through all phases. -/
theorem phases_of_buildFresh (built : buildFresh tracker settings = .ok (.ok topology, recorder)) :
    ∃ started fabric opened linked between, Recorder.start tracker = .ok started ∧
      (Build.createEntity started.top "fabric").run.run Recorder.host started = (.ok fabric, opened) ∧
        (linkPhases fabric settings).run.run Recorder.host opened = (.ok linked, between) ∧
          (linked.finish fabric).run.run Recorder.host between = (.ok topology, recorder) := by
  obtain ⟨started, started_eq, ran⟩ := Attempt.bind_eq_ok_iff.1 built
  obtain ⟨fabric, opened, created, ran⟩ :=
    Build.run_bind_eq_ok_iff.1 (Attempt.pure_eq_ok_iff.1 ran)
  rw [Build.run_orRelease_eq_ok_iff, run_orReport_eq_ok_iff, runPhases_eq] at ran
  obtain ⟨linked, between, linked_eq, finished⟩ := Build.run_bind_eq_ok_iff.1 ran
  exact ⟨started, fabric, opened, linked, between, started_eq, created, linked_eq, finished⟩

/-- The graph is still empty when the entity of the fabric has been created. -/
theorem fresh_of_start {started opened : Recorder} {fabric : EntityHandle}
    (started_eq : Recorder.start tracker = .ok started)
    (created : (Build.createEntity started.top "fabric").run.run Recorder.host started =
      (.ok fabric, opened)) : opened.graph = .empty := by
  rcases Recorder.start_cases tracker with ⟨_, same, empty, _⟩ | ⟨_, _, failed⟩
  · cases started_eq.symm.trans same
    rcases Build.yields_createEntity started.top "fabric" .empty started empty with
      ⟨_, _, same, kept, _⟩ | ⟨_, _, _, failed⟩
    · cases created.symm.trans same
      exact kept
    · cases created.symm.trans failed
  · cases started_eq.symm.trans failed

/-- **What a build that succeeds comes to.**  Its configuration has a partition and a latency that is a word,
the third phase leaves the links of the layout in the ledger, and the last one closes the graph. -/
theorem buildFresh_ok (built : buildFresh tracker settings = .ok (.ok topology, recorder)) :
    ∃ partitioned latency linked between, Partitioned.ofSettings settings = .ok partitioned ∧
      Latency.ofNanoseconds settings.timing.linkLatency = .ok latency ∧
        (linkFresh tracker settings = .ok (.ok linked, between) ∧ linked.IsOf partitioned) ∧
          (linked.finish topology.entity).run.run Recorder.host between = (.ok topology, recorder) ∧
            topology.IsOf partitioned ∧ recorder.graph = partitioned.graph latency := by
  obtain ⟨started, fabric, opened, linked, between, started_eq, created, linked_eq, finished⟩ :=
    phases_of_buildFresh built
  have fresh := fresh_of_start started_eq created
  have phases : linkFresh tracker settings = .ok (.ok linked, between) := by
    rw [linkFresh, started_eq, Attempt.ok_bind, Build.run_bind_ok created, linked_eq]
    rfl
  cases made : Partitioned.ofSettings settings with
  | error failure =>
      have refused := runPhases_refused made fabric opened
      rw [runPhases_eq] at refused
      cases (Build.run_bind_eq_ok_iff.2 ⟨linked, between, linked_eq, finished⟩).symm.trans refused
  | ok partitioned =>
      cases fits : Latency.ofNanoseconds settings.timing.linkLatency with
      | error fault =>
          obtain ⟨_, _, stopped, _⟩ := linkPhases_overflow made fits fabric fresh
          cases linked_eq.symm.trans stopped
      | ok latency =>
          rcases yields_linkPhases made fits fabric opened fresh with
            ⟨_, _, same, ⟨isOf, linked_graph⟩, _⟩ | ⟨_, _, _, failed⟩
          · cases linked_eq.symm.trans same
            rcases isOf.yields_finish latency fabric between linked_graph with
              ⟨_, _, same, ⟨topology_isOf, entity, graph_eq⟩, _⟩ | ⟨_, _, _, failed⟩
            · cases finished.symm.trans same
              exact ⟨partitioned, latency, linked, between, rfl, rfl, ⟨phases, isOf⟩, entity ▸ finished,
                topology_isOf, graph_eq⟩
            · cases finished.symm.trans failed
          · cases linked_eq.symm.trans failed

/-- With room for three entities a build on a fresh graph reaches its phases, and comes out as they do. -/
theorem buildFresh_of_phases {spare : Nat} (settings : Settings) (room : tracker.HasRoom (3 + spare)) :
    ∃ fabric opened, opened.graph = .empty ∧ opened.HasRoom spare ∧
      ∃ after, buildFresh tracker settings =
          .ok (((runPhases fabric settings).run.run Recorder.host opened).1, after) ∧
        after.graph = ((runPhases fabric settings).run.run Recorder.host opened).2.graph := by
  rcases Recorder.start_cases tracker with ⟨started, started_eq, empty, left⟩ | ⟨full, _, _⟩
  · have enough : started.HasRoom (1 + spare) := left _ (by rwa [← Nat.add_assoc])
    rcases Build.yields_createEntity started.top "fabric" .empty started empty with
      ⟨fabric, opened, created, kept, left⟩ | ⟨full, _, _⟩
    · obtain ⟨outcome, same⟩ := run_aroundPhases fabric settings opened
      refine ⟨fabric, opened, kept, left _ enough, _, ?_, same⟩
      rw [buildFresh, started_eq, Attempt.ok_bind, build, Build.run_bind_ok created]
      exact congrArg Except.ok (Prod.ext outcome rfl)
    · exact absurd (enough.mono (Nat.le_add_right _ _)) full
  · exact absurd (room.mono (by omega)) full

/-- **A configuration with a partition is built when there is room for the entities.** -/
theorem buildFresh_of_hasRoom {partitioned : Partitioned} {latency : Latency}
    (made : Partitioned.ofSettings settings = .ok partitioned)
    (fits : Latency.ofNanoseconds settings.timing.linkLatency = .ok latency)
    (room : tracker.HasRoom (3 + entityCount settings)) :
    ∃ topology recorder, buildFresh tracker settings = .ok (.ok topology, recorder) ∧
      topology.IsOf partitioned ∧ recorder.graph = partitioned.graph latency := by
  obtain ⟨fabric, opened, empty, enough, recorder, built, same⟩ := buildFresh_of_phases settings room
  rcases yields_runPhases made fits fabric opened empty with
    ⟨topology, after, ran, ⟨isOf, graph_eq⟩, _⟩ | ⟨full, _, _⟩
  · rw [ran] at built same
    exact ⟨topology, recorder, built, isOf, same.trans graph_eq⟩
  · exact absurd enough full

/-- **A configuration without a partition is refused, and nothing has been created.** -/
theorem buildFresh_refused {failure : Failure BuildError}
    (refused : Partitioned.ofSettings settings = .error failure) (room : tracker.HasRoom 3) :
    ∃ recorder, buildFresh tracker settings = .ok (.error failure, recorder) ∧
      recorder.graph = .empty := by
  obtain ⟨fabric, opened, empty, _, recorder, built, same⟩ :=
    @buildFresh_of_phases tracker 0 settings room
  rw [runPhases_refused refused] at built same
  exact ⟨recorder, built, same.trans empty⟩

/-- **With a latency that is no word a build faults when it has created all nodes.** -/
theorem buildFresh_overflow {partitioned : Partitioned} {fault : Fault}
    (made : Partitioned.ofSettings settings = .ok partitioned)
    (overflow : Latency.ofNanoseconds settings.timing.linkLatency = .error fault)
    (room : tracker.HasRoom (3 + entityCount settings)) :
    ∃ recorder, buildFresh tracker settings = .ok (.error (.fault fault), recorder) ∧
      recorder.graph = ComponentGraph.empty.pushAll partitioned.nodeComponents := by
  obtain ⟨fabric, opened, empty, enough, recorder, built, same⟩ := buildFresh_of_phases settings room
  obtain ⟨_, after, stopped, reached⟩ := linkPhases_overflow made overflow fabric empty
  obtain ⟨rfl, created⟩ := reached enough
  rw [runPhases_eq, Build.run_bind_error stopped] at built same
  exact ⟨recorder, built, same.trans created⟩

/-- The default configuration is built under a tracker that writes nothing. -/
theorem default_built : ∃ partitioned latency topology recorder,
    Partitioned.ofSettings {} = .ok partitioned ∧
      buildFresh .silent {} = .ok (.ok topology, recorder) ∧ topology.IsOf partitioned ∧
        recorder.graph = partitioned.graph latency := by
  have made : ∃ partitioned, Partitioned.ofSettings {} = .ok partitioned := ⟨_, rfl⟩
  obtain ⟨partitioned, made⟩ := made
  have room : Tracker.silent.HasRoom (3 + entityCount {}) := trivial
  have fits : Latency.ofNanoseconds ({} : Settings).timing.linkLatency = .ok ⟨1000⟩ := rfl
  obtain ⟨topology, recorder, built, isOf, graph_eq⟩ := buildFresh_of_hasRoom made fits room
  exact ⟨partitioned, ⟨1000⟩, topology, recorder, made, built, isOf, graph_eq⟩

end Topology

end MemoryFabric

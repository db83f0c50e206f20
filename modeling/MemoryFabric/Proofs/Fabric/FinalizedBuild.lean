import MemoryFabric.Proofs.Fabric.FreshBuild
import MemoryFabric.Proofs.Host.Run

/-!
# Builds on finalized graphs

A build that has to stop says why, or it faults before because its tracker has run out of identifiers.
`Build.Stops` says so of a build on all recorders with a given graph; it needs fewer rules than `Yields`,
because a build stops where its first step stops.

A build on a finalized graph stops at its first component at the latest.  Main statement:
**`Recorder.finalized_for_good`**, about a finalized graph and whatever is done with it later.
-/

namespace MemoryFabric

set_option autoImplicit false

namespace Build

/-- On every recorder with the graph `before` the build reports an error as described, unless there is no room
for `cost` more entities. -/
def Stops {α : Type} (build : Build α) (cost : Nat) (before : ComponentGraph)
    (failing : BuildError → Prop) : Prop :=
  ∀ recorder : Recorder, recorder.graph = before →
    (∃ error after, build.run.run Recorder.host recorder = (.error (.reported error), after) ∧
        failing error) ∨
      ¬ recorder.HasRoom cost ∧
        ∃ fault after, build.run.run Recorder.host recorder = (.error (.fault fault), after)

/-! ## Rules -/

section Rules

variable {α β : Type} {build : Build α} {cost less : Nat} {before : ComponentGraph}
  {failing : BuildError → Prop}

theorem Stops.weaken {stronger : BuildError → Prop} (stops : build.Stops less before stronger)
    (le : less ≤ cost) (implies : ∀ error, stronger error → failing error) :
    build.Stops cost before failing := by
  intro recorder same
  rcases stops recorder same with ⟨error, after, ran, holds⟩ | ⟨full, faulted⟩
  · exact .inl ⟨error, after, ran, implies error holds⟩
  · exact .inr ⟨fun enough => full (enough.mono le), faulted⟩

/-- A build stops where its first step stops. -/
theorem Stops.bind (stops : build.Stops cost before failing) (rest : α → Build β) :
    (build >>= rest).Stops cost before failing := by
  intro recorder same
  rcases stops recorder same with ⟨error, after, ran, holds⟩ | ⟨full, fault, after, ran⟩
  · exact .inl ⟨error, after, run_bind_error ran, holds⟩
  · exact .inr ⟨full, fault, after, run_bind_error ran⟩

/-- **A build stops where a later step stops, after the room of both.** -/
theorem Yields.bind_stops {middle : α → ComponentGraph → Prop} {rest : α → Build β}
    (first : build.Yields less before middle) (le : less ≤ cost)
    (second : ∀ value graph, middle value graph → (rest value).Stops (cost - less) graph failing) :
    (build >>= rest).Stops cost before failing := by
  intro recorder same
  rcases first recorder same with ⟨value, between, ran, holds, room⟩ | ⟨full, fault, after, ran⟩
  · rcases second value between.graph holds between rfl with
      ⟨error, after, stopped, holds⟩ | ⟨full, fault, after, stopped⟩
    · exact .inl ⟨error, after, (run_bind_ok ran).trans stopped, holds⟩
    · refine .inr ⟨fun enough => full (room _ (enough.mono ?_)), fault, after,
        (run_bind_ok ran).trans stopped⟩
      omega
  · exact .inr ⟨fun enough => full (enough.mono le), fault, after, run_bind_error ran⟩

theorem Stops.orRelease (stops : build.Stops cost before failing) (entities : List EntityHandle) :
    (build.orRelease entities).Stops cost before failing := by
  intro recorder same
  rcases stops recorder same with ⟨error, after, ran, holds⟩ | ⟨full, fault, after, ran⟩
  · obtain ⟨released, ran, _⟩ := run_orRelease_error entities ran
    exact .inl ⟨error, released, ran, holds⟩
  · obtain ⟨released, ran, _⟩ := run_orRelease_error entities ran
    exact .inr ⟨full, fault, released, ran⟩

theorem Stops.orReport {build : Build Topology} (stops : build.Stops cost before failing)
    (fabric : EntityHandle) : (Topology.orReport build fabric).Stops cost before failing := by
  intro recorder same
  rcases stops recorder same with ⟨error, after, ran, holds⟩ | ⟨full, fault, after, ran⟩
  · obtain ⟨reported, ran, _⟩ := Topology.run_orReport_error fabric ran
    exact .inl ⟨error, reported, ran, holds⟩
  · obtain ⟨reported, ran, _⟩ := Topology.run_orReport_error fabric ran
    exact .inr ⟨full, fault, reported, ran⟩

theorem stops_ofBuilt {built : Built α} {error : BuildError} (refused : built = .error (.reported error))
    (before : ComponentGraph) : (ofBuilt built).Stops 0 before (· = error) := by
  rw [refused]
  exact fun recorder _ => .inl ⟨error, recorder, rfl, rfl⟩

/-- A call on a finalized graph stops every build. -/
theorem stops_perform_of_finalized {command : Command} {call : HostCall}
    (structural : command.call? = some call) (closed : before.isFinalized = true) :
    (perform command).Stops 0 before (· = .host (.finalized call)) := by
  rintro recorder rfl
  refine .inl ⟨_, recorder, ?_, rfl⟩
  rw [run_perform, Recorder.answer_of_finalized closed structural]
  rfl

end Rules

end Build

/-! ## Building on a finalized graph -/

section Finalized

variable {settings : Settings} {graph : ComponentGraph}

/-- A processing node cannot be created in a finalized graph. -/
theorem ProcessingNode.stops_create_of_finalized (closed : graph.isFinalized = true)
    (parent : EntityHandle) (core : Core) (index : Nat) :
    (create parent settings core index).Stops 1 graph (· = .host (.finalized .createComponent)) := by
  refine (Build.yields_createEntity _ _ _).bind_stops (Nat.le_refl 1) ?_
  rintro entity graph rfl
  exact ((Build.stops_perform_of_finalized rfl closed).bind _).orRelease _

/-- A cluster cannot be created in a finalized graph, as it starts with a processing node. -/
theorem Cluster.stops_create_of_finalized (closed : graph.isFinalized = true) (parent : EntityHandle)
    (cacheNode : Nat) (inhabited : settings.compute.processingNodes.toNat ≠ 0) :
    (create parent settings cacheNode).Stops 2 graph (· = .host (.finalized .createComponent)) := by
  have ports := Attempt.reporting_eq_ok_iff.2 (busPorts_eq busName inhabited)
  refine (Build.yields_ofBuilt ports graph).bind_stops (Nat.zero_le 2) ?_
  rintro _ _ ⟨rfl, rfl⟩
  refine (Build.yields_createEntity _ _ _).bind_stops (by decide) ?_
  rintro entity graph rfl
  refine Build.Stops.orRelease (Build.Stops.bind ?_ _) _
  obtain ⟨others, count⟩ := Nat.exists_eq_succ_of_ne_zero inhabited
  rw [count, List.range_succ_eq_map]
  exact (((ProcessingNode.stops_create_of_finalized closed _ _ _).orRelease _).bind _)

namespace Topology

/-- **A build on a finalized graph stops: with the first check that fails, or else with the refusal of its
first component.** -/
theorem stops_build_of_finalized (closed : graph.isFinalized = true) (parent : EntityHandle)
    (settings : Settings) :
    (build parent settings).Stops 3 graph fun error =>
      settings.StopsWith error ∨
        settings.Passes ∧ error = .host (.finalized .createComponent) := by
  refine (Build.yields_createEntity _ _ _).bind_stops (by decide) ?_
  rintro fabric graph rfl
  refine ((Build.Stops.orReport ?_ fabric).orRelease [fabric])
  rcases Partitioned.ofSettings_cases settings with
    ⟨partitioned, made, isFor⟩ | ⟨error, refused, stops, _⟩
  · refine (yields_create made fabric graph).bind_stops (Nat.zero_le _) ?_
    rintro partitioned graph ⟨rfl, rfl⟩
    refine Build.Stops.weaken (Build.Stops.bind (Build.Stops.bind ?_ _) _) (Nat.le_refl 2)
      fun error holds => .inr ⟨isFor.passes, holds⟩
    rw [isFor.settings_eq]
    exact Cluster.stops_create_of_finalized closed fabric _ isFor.sound.processingNodes
  · refine Build.Stops.weaken (Build.Stops.bind (Build.Stops.bind
      (Build.stops_ofBuilt refused graph) _) _) (Nat.zero_le 2) ?_
    rintro _ rfl
    exact .inl stops

end Topology

end Finalized

/-! ## Finalized for good -/

namespace Recorder

/-- **A graph that has been finalized is complete, and nothing changes it any more.**  Whatever a script does
with it, every call is refused and every build stops with an error, or with a fault when the tracker has run
out of identifiers. -/
theorem finalized_for_good {first : Recorder} (fresh : first.graph = .empty) (commands : List Command)
    (closed : (first.after commands).graph.isFinalized = true) :
    (∀ link ∈ (first.after commands).graph.links, link.ends.isSome = true) ∧
      ∀ {α : Type} (script : Script α) (last : Recorder),
        (script.run host (first.after commands)).2 = last →
          last.graph = (first.after commands).graph ∧
            (∀ command call, command.call? = some call →
              answer command last = (.error (.reported (.finalized call)), last)) ∧
            ∀ parent settings, (Topology.build parent settings).Stops 3 last.graph fun error =>
              settings.StopsWith error ∨
                settings.Passes ∧ error = .host (.finalized .createComponent) := by
  refine ⟨after_connected fresh commands closed, ?_⟩
  rintro α script last rfl
  have kept := run_of_finalized closed script
  have closed_last : ((script.run host (first.after commands)).2).graph.isFinalized = true := by
    rw [kept]
    exact closed
  exact ⟨kept, fun command call structural => answer_of_finalized closed_last structural,
    fun parent settings => Topology.stops_build_of_finalized closed_last parent settings⟩

/-- A graph with one connected link is finalized, and then neither built on nor finalized again. -/
theorem finalized_for_good_one_connection : ∃ first commands, start .silent = .ok first ∧
    first.graph = .empty ∧ (first.after commands).graph.isFinalized = true ∧
      (first.after commands).graph.links.size = 1 ∧
      (∀ link ∈ (first.after commands).graph.links, link.ends.isSome = true) ∧
      ∃ error last, (Topology.build first.top {}).run.run host (first.after commands) =
          (.error (.reported error), last) ∧
        last.graph = (first.after commands).graph ∧
        answer .finalize last = (.error (.reported (.finalized .finalize)), last) := by
  obtain ⟨first, commands, started, fresh, closed, linked, silent⟩ : ∃ first commands,
      start .silent = .ok first ∧ first.graph = .empty ∧
        (first.after commands).graph.isFinalized = true ∧
        (first.after commands).graph.links.size = 1 ∧
        ((first.after commands).tracking.tracker matches .silent) = true :=
    ⟨_, [.createComponent "kind" "a", .createLink "x",
      .connect ⟨0⟩ ⟨⟨0⟩, "p", ⟨1⟩⟩ ⟨⟨0⟩, "q", ⟨1⟩⟩, .finalize],
      rfl, rfl, by decide +kernel, by decide +kernel, by decide +kernel⟩
  have room : (first.after commands).HasRoom 3 := by
    split at silent
    · next tracker_eq =>
        rw [HasRoom, tracker_eq]
        trivial
    · cases silent
  obtain ⟨connected, good⟩ := finalized_for_good fresh commands closed
  obtain ⟨_, _, builds⟩ := good (.done ()) _ rfl
  rcases builds first.top {} _ rfl with ⟨error, last, ran, _⟩ | ⟨full, _⟩
  · obtain ⟨kept, refuses, _⟩ :=
      good (Topology.build first.top {}).run last (congrArg Prod.snd ran)
    exact ⟨first, commands, started, fresh, closed, linked, connected, error, last, ran, kept,
      refuses .finalize _ rfl⟩
  · exact absurd room full

/-- When the tracker has run out of identifiers a build on a finalized graph faults. -/
theorem finalized_out_of_identifiers : ∃ first,
    start (.collecting 18446744073709551613 #[]) = .ok first ∧ first.graph = .empty ∧
      (first.after [.finalize]).graph.isFinalized = true ∧
        ∃ last, (Topology.build first.top {}).run.run host (first.after [.finalize]) =
          (.error (.fault .overflow), last) := by
  obtain ⟨first, started, fresh, closed, stopped⟩ : ∃ first,
      start (.collecting 18446744073709551613 #[]) = .ok first ∧ first.graph = .empty ∧
        (first.after [.finalize]).graph.isFinalized = true ∧
          Topology.faultOf? (.ok ((Topology.build first.top {}).run.run host
            (first.after [.finalize]))) = some .overflow :=
    ⟨_, rfl, rfl, by decide +kernel, by decide +kernel⟩
  obtain ⟨last, ran⟩ := Topology.exists_of_faultOf? stopped
  exact ⟨first, started, fresh, closed, last, Except.ok.inj ran⟩

end Recorder

end MemoryFabric

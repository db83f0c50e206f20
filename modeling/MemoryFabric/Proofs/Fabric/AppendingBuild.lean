import MemoryFabric.Proofs.Fabric.Extends
import MemoryFabric.Proofs.Fabric.FinalizedBuild

/-!
# Builds only append

The last phase of a build is the only one to close the graph, and it does nothing else to components and links;
the first phase does not touch the graph.  `Build.Concludes` is said of builds that come to such an end.  Main
statement: **`Topology.build_onlyAppends`**, about a build on any recorder, whatever its graph has been before.
-/

namespace MemoryFabric

set_option autoImplicit false

/-! ## Closing the graph -/

/-- The components and links of the base are the first ones in the end, and the graph has been closed exactly on
success. -/
structure ComponentGraph.EndsAs (base graph : ComponentGraph) (succeeded : Bool) : Prop where
  components : base.components.toList <+: graph.components.toList
  links : base.links.toList <+: graph.links.toList
  isFinalized_eq : graph.isFinalized = succeeded

theorem ComponentGraph.ExtendedBy.endsAs {base graph : ComponentGraph}
    (extended : base.ExtendedBy graph) (opened : base.isFinalized = false) : base.EndsAs graph false :=
  ⟨extended.components, extended.links, extended.isFinalized_eq.trans opened⟩

namespace Build

/-- On every recorder with a graph that extends the base, the build closes the graph as its last deed, or
stops. -/
def Concludes {α : Type} (build : Build α) (base : ComponentGraph) : Prop :=
  ∀ recorder : Recorder, base.ExtendedBy recorder.graph →
    base.EndsAs (build.run.run Recorder.host recorder).2.graph
      (build.run.run Recorder.host recorder).1.isOk

variable {α β : Type} {build : Build α} {base : ComponentGraph} {middle : α → Prop}

/-- **A build that extends an open graph may come before the one that closes it.** -/
theorem Extends.bind_concludes (first : build.Extends base middle) (opened : base.isFinalized = false)
    {rest : α → Build β} (second : ∀ value, (rest value).Concludes base) :
    (build >>= rest).Concludes base := by
  intro recorder extended
  obtain ⟨extended, _⟩ := first recorder extended
  cases ran : build.run.run Recorder.host recorder with
  | mk outcome between =>
      rw [ran] at extended
      cases outcome with
      | ok value =>
          rw [run_bind_ok ran]
          exact second value between extended
      | error failure =>
          rw [run_bind_error ran]
          exact extended.endsAs opened

/-- What follows must neither stop nor touch the graph. -/
theorem Concludes.bind (first : build.Concludes base) {rest : α → Build β}
    (keeps : ∀ value recorder, ∃ given after,
      (rest value).run.run Recorder.host recorder = (.ok given, after) ∧ after.graph = recorder.graph) :
    (build >>= rest).Concludes base := by
  intro recorder extended
  have ends := first recorder extended
  cases ran : build.run.run Recorder.host recorder with
  | mk outcome between =>
      rw [ran] at ends
      cases outcome with
      | ok value =>
          obtain ⟨given, after, kept, same⟩ := keeps value between
          rw [run_bind_ok ran, kept, same]
          exact ends
      | error failure =>
          rw [run_bind_error ran]
          exact ends

theorem Concludes.orRelease (concludes : build.Concludes base) (entities : List EntityHandle) :
    (build.orRelease entities).Concludes base := by
  intro recorder extended
  obtain ⟨same, kept⟩ := run_orRelease build entities recorder
  rw [same, kept]
  exact concludes recorder extended

theorem Concludes.orReport {build : Build Topology} (concludes : build.Concludes base)
    (fabric : EntityHandle) : (Topology.orReport build fabric).Concludes base := by
  intro recorder extended
  obtain ⟨same, kept⟩ := Topology.run_orReport build fabric recorder
  rw [same, kept]
  exact concludes recorder extended

theorem concludes_finalize (opened : base.isFinalized = false) : finalize.Concludes base := by
  intro recorder extended
  rw [finalize, run_perform, Recorder.answer_finalize]
  cases closed : recorder.graph.finalize with
  | error error => exact extended.endsAs opened
  | ok graph =>
      obtain ⟨_, _, rfl⟩ := ComponentGraph.finalize_eq_ok_iff.1 closed
      exact ⟨extended.components, extended.links, rfl⟩

end Build

/-! ## Whole builds -/

theorem Linked.concludes_finish {base : ComponentGraph} (opened : base.isFinalized = false)
    (fabric : EntityHandle) (linked : Linked) : (linked.finish fabric).Concludes base := by
  refine Build.Concludes.bind (Build.Concludes.orRelease ?_ _) fun _ _ => ⟨_, _, rfl, rfl⟩
  exact (Build.extends_configureStatistics _).bind_concludes opened fun _ =>
    Build.concludes_finalize opened

namespace Topology

/-- On an open graph a build closes it at the very end, or stops before. -/
theorem concludes_build {base : ComponentGraph} (opened : base.isFinalized = false)
    (parent : EntityHandle) (settings : Settings) : (build parent settings).Concludes base := by
  refine (Build.extends_createEntity _ _).bind_concludes opened fun fabric => ?_
  refine Build.Concludes.orRelease (Build.Concludes.orReport ?_ fabric) [fabric]
  refine (Partitioned.extends_create settings fabric).bind_concludes opened fun partitioned => ?_
  refine (partitioned.extends_populate fabric).bind_concludes opened fun populated => ?_
  refine (populated.extends_link fabric).bind_concludes opened fun linked => ?_
  exact linked.concludes_finish opened fabric

/-- An entity that is created leaves the graph alone, and so does one that is not. -/
theorem createEntity_graph (parent : EntityHandle) (name : String) (recorder : Recorder) :
    ((Build.createEntity parent name).run.run Recorder.host recorder).2.graph = recorder.graph := by
  rw [Build.createEntity, Build.run_perform]
  rcases recorder.graph_answer (.createEntity parent name) with same | ⟨_, step⟩
  · exact same
  · cases step

/-- A configuration that is refused in the first phase leaves the graph as it is. -/
theorem build_refused {settings : Settings} {failure : Failure BuildError}
    (refused : Partitioned.ofSettings settings = .error failure) (parent : EntityHandle)
    (recorder : Recorder) :
    ((build parent settings).run.run Recorder.host recorder).1.isOk = false ∧
      ((build parent settings).run.run Recorder.host recorder).2.graph = recorder.graph := by
  have same := createEntity_graph parent "fabric" recorder
  cases created : (Build.createEntity parent "fabric").run.run Recorder.host recorder with
  | mk outcome opened =>
      rw [created] at same
      cases outcome with
      | error fault =>
          rw [build, Build.run_bind_error created]
          exact ⟨rfl, same⟩
      | ok fabric =>
          rw [build, Build.run_bind_ok created]
          obtain ⟨ended, kept⟩ := run_aroundPhases fabric settings opened
          rw [ended, kept, runPhases_refused refused]
          exact ⟨rfl, same⟩

/-- A build on a finalized graph fails and leaves the graph as it is. -/
theorem build_of_finalized {recorder : Recorder} (closed : recorder.graph.isFinalized = true)
    (parent : EntityHandle) (settings : Settings) :
    ((build parent settings).run.run Recorder.host recorder).1.isOk = false ∧
      ((build parent settings).run.run Recorder.host recorder).2.graph = recorder.graph := by
  refine ⟨?_, Recorder.run_of_finalized closed (build parent settings).run⟩
  rcases stops_build_of_finalized closed parent settings recorder rfl with
    ⟨_, _, stopped, _⟩ | ⟨_, _, _, stopped⟩
  · rw [stopped]
    rfl
  · rw [stopped]
    rfl

/-- What a build makes of a graph. -/
structure OnlyAppends (before : ComponentGraph) (settings : Settings) (result : Built Topology)
    (after : ComponentGraph) : Prop where
  /-- The components that there were are the first ones, as they were. -/
  components : before.components.toList <+: after.components.toList
  /-- The links that there were are the first ones, as they were. -/
  links : before.links.toList <+: after.links.toList
  finalized_iff : after.isFinalized = true ↔ before.isFinalized = true ∨ result.isOk = true
  /-- On a finalized graph a build fails and changes nothing. -/
  of_finalized : before.isFinalized = true → result.isOk = false ∧ after.snapshot = before.snapshot
  /-- A build that fails in its first phase changes nothing. -/
  of_refused : ∀ failure, Partitioned.ofSettings settings = .error failure →
    result.isOk = false ∧ after.snapshot = before.snapshot

/-- **A build only appends to the graph, and closes it only when it succeeds.** -/
theorem build_onlyAppends (recorder : Recorder) (parent : EntityHandle) (settings : Settings) :
    OnlyAppends recorder.graph settings ((build parent settings).run.run Recorder.host recorder).1
      ((build parent settings).run.run Recorder.host recorder).2.graph := by
  have refused : ∀ failure, Partitioned.ofSettings settings = .error failure →
      ((build parent settings).run.run Recorder.host recorder).1.isOk = false ∧
        ((build parent settings).run.run Recorder.host recorder).2.graph.snapshot =
          recorder.graph.snapshot := by
    intro failure refused
    obtain ⟨failed, kept⟩ := build_refused refused parent recorder
    exact ⟨failed, congrArg ComponentGraph.snapshot kept⟩
  cases closed : recorder.graph.isFinalized with
  | true =>
      obtain ⟨failed, kept⟩ := build_of_finalized closed parent settings
      refine ⟨?_, ?_, ?_, fun _ => ⟨failed, congrArg ComponentGraph.snapshot kept⟩, refused⟩
      · exact kept.symm ▸ List.prefix_rfl
      · exact kept.symm ▸ List.prefix_rfl
      · rw [kept, closed]
        exact iff_of_true rfl (.inl rfl)
  | false =>
      have ends := concludes_build closed parent settings recorder (.refl _)
      refine ⟨ends.components, ends.links, ?_, fun opened => ?_, refused⟩
      · rw [ends.isFinalized_eq, closed]
        exact (or_iff_right Bool.false_ne_true).symm
      · rw [closed] at opened
        cases opened

end Topology

end MemoryFabric

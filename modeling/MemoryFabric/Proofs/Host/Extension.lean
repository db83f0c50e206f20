import MemoryFabric.Proofs.Host.Run

/-!
# Graphs that are appended to

A graph is extended by another one when its components and links are the first components and links of the
other, with all that is recorded about them.  Calls that create something extend a graph; calls that change a
component or connect a link do so when what they change has been created since.  A command that keeps to this
is said to spare the graph (`ComponentGraph.Spares`), and no answer to it changes what there was
(**`ExtendedBy.answer`**).
-/

namespace MemoryFabric

set_option autoImplicit false

namespace ComponentGraph

variable {base graph next : ComponentGraph} {command : Command}

/-- The components and links of a graph are the first ones of another, which is open exactly if the graph
is. -/
structure ExtendedBy (base graph : ComponentGraph) : Prop where
  components : base.components.toList <+: graph.components.toList
  links : base.links.toList <+: graph.links.toList
  isFinalized_eq : graph.isFinalized = base.isFinalized

theorem ExtendedBy.refl (graph : ComponentGraph) : graph.ExtendedBy graph :=
  ⟨List.prefix_rfl, List.prefix_rfl, rfl⟩

/-! ## Commands that spare a graph -/

/-- The component is younger than all components of the graph. -/
def Predates (graph : ComponentGraph) (handle : ComponentHandle) : Prop :=
  graph.components.size ≤ handle.index

/-- The link is younger than all links of the graph. -/
def PredatesLink (graph : ComponentGraph) (handle : LinkHandle) : Prop :=
  graph.links.size ≤ handle.index

/-- The command changes none of the components and links of the graph, and does not close it. -/
def Spares (graph : ComponentGraph) : Command → Prop
  | .attachSubcomponent parent _ _ => graph.Predates parent
  | .setParameters handle _ => graph.Predates handle
  | .connect link _ _ => graph.PredatesLink link
  | .finalize => False
  | _ => True

/-- What a command has created is younger than the graph. -/
def AnsweredLater (graph : ComponentGraph) : (command : Command) → command.Answer → Prop
  | .createComponent _ _, handle => graph.Predates handle
  | .attachSubcomponent _ _ _, handle => graph.Predates handle
  | .createLink _, link => graph.PredatesLink link
  | _, _ => True

theorem prefix_modify {α : Type} {first list : List α} {position : Nat} {change : α → α}
    (beginning : first <+: list) (behind : first.length ≤ position) :
    first <+: list.modify position change := by
  obtain ⟨rest, rfl⟩ := beginning
  obtain ⟨offset, rfl⟩ := Nat.exists_eq_add_of_le behind
  rw [modify_append]
  exact List.prefix_append _ _

theorem ExtendedBy.push (extended : base.ExtendedBy graph) (component : Component) :
    base.ExtendedBy (graph.push component) := by
  refine ⟨extended.components.trans ?_, extended.links, extended.isFinalized_eq⟩
  rw [ComponentGraph.push, Array.toList_push]
  exact List.prefix_append _ _

theorem ExtendedBy.modify (extended : base.ExtendedBy graph) {handle : ComponentHandle}
    (later : base.Predates handle) (change : Component → Component) :
    base.ExtendedBy (graph.modify handle change) := by
  refine ⟨?_, extended.links, extended.isFinalized_eq⟩
  rw [ComponentGraph.modify, Array.toList_modify]
  exact prefix_modify extended.components later

/-- Every step of a command that spares the graph extends it. -/
theorem ExtendedBy.step (extended : base.ExtendedBy graph) (spares : base.Spares command)
    (step : graph.Step command next) : base.ExtendedBy next := by
  cases step with
  | createComponent kinded named fresh => exact extended.push _
  | attachSubcomponent kinded slotted found free => exact (extended.push _).modify spares _
  | setParameters parameters found => exact extended.modify spares _
  | createLink fresh =>
      refine ⟨extended.components, extended.links.trans ?_, extended.isFinalized_eq⟩
      rw [withOpenLink, Array.toList_push]
      exact List.prefix_append _ _
  | connect unconnected first second different a_free b_free =>
      refine ⟨extended.components, ?_, extended.isFinalized_eq⟩
      rw [withEnds, Array.toList_modify]
      exact prefix_modify extended.links spares
  | configureStatistics setup => exact ⟨extended.components, extended.links, extended.isFinalized_eq⟩
  | finalize connected => exact spares.elim

theorem ExtendedBy.predates_nextHandle (extended : base.ExtendedBy graph) :
    base.Predates graph.nextHandle :=
  extended.components.length_le

/-! ## Answers to commands -/

/-- **No answer to a command that spares a graph changes what there was.** -/
theorem ExtendedBy.answer {recorder : Recorder} (extended : base.ExtendedBy recorder.graph)
    (spares : base.Spares command) : base.ExtendedBy (Recorder.answer command recorder).2.graph := by
  rcases recorder.graph_answer command with same | ⟨_, step⟩
  · rw [same]
    exact extended
  · exact extended.step spares step

theorem eq_of_adopted {recorder : Recorder} {parent : EntityHandle} {entityName : String}
    {handle value : ComponentHandle} (adopted : (recorder.adopt parent entityName handle graph).1 = .ok value) :
    value = handle := by
  rcases recorder.adopt_cases parent entityName handle graph with ⟨_, same, _⟩ | ⟨_, _, same⟩
  · rw [same] at adopted
    exact (Except.ok.inj adopted).symm
  · rw [same] at adopted
    cases adopted

/-- What is created gets a handle behind those of the graph. -/
theorem ExtendedBy.answeredLater {recorder : Recorder} (extended : base.ExtendedBy recorder.graph)
    {value : command.Answer} (answered : (Recorder.answer command recorder).1 = .ok value) :
    base.AnsweredLater command value := by
  cases command with
  | createComponent kind name =>
      rw [Recorder.answer_createComponent] at answered
      obtain ⟨⟨handle, graph⟩, created, adopted⟩ := Recorder.accepted_of_answerBy answered
      obtain ⟨_, _, _, rfl, _⟩ := createComponent_eq_ok_iff.1 created
      exact eq_of_adopted adopted ▸ extended.predates_nextHandle
  | attachSubcomponent parent slot kind =>
      rw [Recorder.answer_attachSubcomponent] at answered
      obtain ⟨⟨handle, graph⟩, attached, adopted⟩ := Recorder.accepted_of_answerBy answered
      obtain ⟨_, _, _, _, _, rfl, _⟩ := attachSubcomponent_eq_ok_iff.1 attached
      exact eq_of_adopted adopted ▸ extended.predates_nextHandle
  | createLink name =>
      rw [Recorder.answer_createLink] at answered
      obtain ⟨⟨handle, graph⟩, created, given⟩ := Recorder.accepted_of_answerBy answered
      obtain ⟨_, _, rfl, _⟩ := createLink_eq_ok_iff.1 created
      exact Except.ok.inj given ▸ extended.links.length_le
  | _ => trivial

end ComponentGraph

end MemoryFabric

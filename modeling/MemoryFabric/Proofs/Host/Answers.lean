import MemoryFabric.Proofs.Host.Atomicity
import MemoryFabric.Proofs.Host.Growth

/-!
# Answers at once

A call is a program of small steps.  What it does in all is said here in one value: the graph that it makes of
a graph, or the reason for which the graph refuses it (`ComponentGraph.createComponent` and its like).  There is
one equation for each call which tells the answer of a recorder by that value (`Recorder.answer_createComponent`
and its like).  Both sides go through the same checks, so an equation is proved check by check (`on_look_bind`,
`on_refuseIf_bind`) and then for what is changed behind them.
-/

namespace MemoryFabric

set_option autoImplicit false

/-! ## Graphs after a call -/

namespace ComponentGraph

/-- Create a component. -/
def createComponent (graph : ComponentGraph) (kind name : String) :
    Except HostError (ComponentHandle × ComponentGraph) := do
  graph.checkOpen .createComponent
  if kind.isEmpty || name.isEmpty then throw (.unnamedComponent name kind)
  if graph.componentByName.contains name then throw (.duplicateComponent name)
  return (graph.nextHandle, graph.push (.bare name kind none))

/-- Create a subcomponent in a slot of a component. -/
def attachSubcomponent (graph : ComponentGraph) (parent : ComponentHandle) (slot kind : String) :
    Except HostError (ComponentHandle × ComponentGraph) := do
  graph.checkOpen .attachSubcomponent
  if kind.isEmpty || slot.isEmpty then throw (.unnamedSubcomponent slot kind)
  let owner ← graph.component parent
  if owner.slots.contains slot then throw (.slotFilled slot owner.name)
  let handle := graph.nextHandle
  let child := Component.bare (owner.name ++ "." ++ slot) kind (some (parent, slot))
  return (handle, (graph.push child).modify parent fun owner => owner.fill slot handle)

/-- Set parameters of a component. -/
def setParameters (graph : ComponentGraph) (handle : ComponentHandle) (parameters : Parameters) :
    Except HostError ComponentGraph := do
  graph.checkOpen .setParameters
  let _ ← graph.component handle
  return graph.modify handle fun component => component.extend parameters

/-- Create a link, which has no ends yet. -/
def createLink (graph : ComponentGraph) (name : String) :
    Except HostError (LinkHandle × ComponentGraph) := do
  graph.checkOpen .createLink
  if graph.linkByName.contains name then throw (.duplicateLink name)
  let handle : LinkHandle := ⟨graph.links.size⟩
  return (handle,
    { graph with
      links := graph.links.push ⟨name, none⟩
      linkByName := graph.linkByName.insert name handle })

/-- Connect a link to two ports; gives the name of the link, too. -/
def connect (graph : ComponentGraph) (handle : LinkHandle) (a b : LinkEnd) :
    Except HostError (String × ComponentGraph) := do
  graph.checkOpen .connect
  let link ← graph.openLink handle
  let _ ← graph.component a.component
  let _ ← graph.component b.component
  if a.componentPort = b.componentPort then
    throw (.selfLink link.name (graph.portText a.component a.port))
  graph.checkFree a
  graph.checkFree b
  return (link.name,
    { graph with
      links := graph.links.modify handle.index fun link => { link with ends := some (a, b) }
      linkByPort :=
        (graph.linkByPort.insert a.componentPort handle).insert b.componentPort handle })

/-- Set how statistics are collected. -/
def configureStatistics (graph : ComponentGraph) (setup : StatisticsSetup) :
    Except HostError ComponentGraph := do
  graph.checkOpen .configureStatistics
  return { graph with statistics := some setup }

/-- Close the graph. -/
def finalize (graph : ComponentGraph) : Except HostError ComponentGraph := do
  graph.checkOpen .finalize
  graph.checkConnected
  return { graph with isFinalized := true }

end ComponentGraph

/-! ## Recorders after a call -/

namespace Recorder

/-- Answer a call by what the graph says to it: the call is refused when the graph refuses it. -/
def answerBy {α β : Type} (recorder : Recorder) (result : Except HostError α)
    (accept : α → Attempt HostError β × Recorder) : Attempt HostError β × Recorder :=
  match result with
  | .error error => (Attempt.report error, recorder)
  | .ok value => accept value

/-- What is answered with a value has been accepted. -/
theorem accepted_of_answerBy {α β : Type} {recorder : Recorder} {result : Except HostError α}
    {accept : α → Attempt HostError β × Recorder} {value : β}
    (answered : (recorder.answerBy result accept).1 = .ok value) :
    ∃ given, result = .ok given ∧ (accept given).1 = .ok value := by
  cases result with
  | error error => cases answered
  | ok given => exact ⟨given, rfl, answered⟩

theorem answerBy_pure {α β : Type} {recorder : Recorder} {value : α}
    {accept : α → Attempt HostError β × Recorder} :
    recorder.answerBy (pure value) accept = accept value := rfl

/-- Keep a graph with a new component, and give the component an entity. -/
def adopt (recorder : Recorder) (parent : EntityHandle) (entityName : String)
    (handle : ComponentHandle) (graph : ComponentGraph) :
    Attempt HostError ComponentHandle × Recorder :=
  match recorder.tracking.create (some parent) entityName with
  | (.error fault, tracking) => (.error (.fault fault), { recorder with tracking })
  | (.ok entity, tracking) =>
    let tracking :=
      match graph.component? handle with
      | some component =>
        tracking.log entity .debug s!"created {component.name} ({component.kind})"
      | none => tracking
    (.ok handle, { recorder with tracking, graph, parts := recorder.parts.push entity })

/-- Log parameters one by one. -/
def logParameters (tracking : Tracking) (entity : EntityHandle) (parameters : Parameters) :
    Tracking :=
  parameters.toList.foldl
    (fun tracking entry => tracking.log entity .debug s!"{entry.1} = {entry.2.written}") tracking

end Recorder

/-! ## Checks of a call -/

namespace Recording

section Checks

variable {α β γ : Type} {recorder : Recorder} {accept : γ → Attempt HostError β × Recorder}

/-- A call that looks at the graph is answered by what the graph says, and then by the rest. -/
theorem on_look_bind {question : ComponentGraph → Except HostError α} {rest : α → Recording β}
    {others : α → Except HostError γ}
    (same : ∀ value, question recorder.graph = .ok value →
      (rest value).on recorder = recorder.answerBy (others value) accept) :
    (look question >>= rest).on recorder =
      recorder.answerBy (question recorder.graph >>= others) accept := by
  rw [on_bind, on_look]
  cases given : question recorder.graph with
  | error error => rfl
  | ok value => exact same value given

/-- A call with a condition is answered by the condition, and then by the rest. -/
theorem on_refuseIf_bind {condition : Bool} {fails : Prop} [Decidable fails] {error : HostError}
    {rest : Unit → Recording β} {skipped : Unit → Except HostError γ} {others : Except HostError γ}
    (tests : condition = true ↔ fails)
    (same : (rest ()).on recorder = recorder.answerBy others accept) :
    (refuseIf condition error >>= rest).on recorder =
      recorder.answerBy (if fails then (throw error : Except HostError Unit) >>= skipped else others)
        accept := by
  rw [on_bind, on_refuseIf]
  by_cases failing : fails
  · rw [if_pos failing, tests.2 failing]
    rfl
  · rw [if_neg failing, if_neg (mt tests.1 failing)]
    exact same

theorem on_get_bind {rest : Recorder → Recording β} {answer : Attempt HostError β × Recorder}
    (same : (rest recorder).on recorder = answer) : (get >>= rest).on recorder = answer :=
  same

theorem on_graph_bind {rest : ComponentGraph → Recording β} {answer : Attempt HostError β × Recorder}
    (same : (rest recorder.graph).on recorder = answer) : (graph >>= rest).on recorder = answer :=
  same

end Checks

/-! ## Changes of a call -/

section Changes

variable {recorder : Recorder}

/-- A new component is kept with its entity. -/
theorem on_addComponent (parent : EntityHandle) (component : Component) (entityName : String) :
    (addComponent parent component entityName).on recorder =
      recorder.adopt parent entityName recorder.graph.nextHandle (recorder.graph.push component) := by
  refine on_graph_bind ?_
  rw [on_bind, on_createEntity, Recorder.adopt, ComponentGraph.component?_push, if_pos rfl]
  obtain ⟨result, tracking⟩ := recorder.tracking.create (some parent) entityName
  cases result <;> rfl

/-- Messages are logged from the first to the last. -/
theorem on_forM_log (entity : EntityHandle) (text : String × Parameter → String)
    (entries : List (String × Parameter)) :
    (entries.forM fun entry => log entity .debug (text entry)).on recorder =
      (.ok (), { recorder with
        tracking := entries.foldl
          (fun tracking entry => tracking.log entity .debug (text entry)) recorder.tracking }) := by
  induction entries generalizing recorder with
  | nil => rfl
  | cons entry rest ih =>
      change (log entity .debug (text entry) >>= fun _ => rest.forM _).on recorder = _
      rw [on_bind]
      exact ih

end Changes

end Recording

/-! ## Answers -/

namespace Recorder

open Recording

variable {recorder : Recorder}

theorem answer_createComponent (kind name : String) :
    answer (.createComponent kind name) recorder =
      recorder.answerBy (recorder.graph.createComponent kind name) fun (handle, graph) =>
        recorder.adopt recorder.entity name handle graph := by
  refine on_look_bind fun _ _ => on_refuseIf_bind Iff.rfl ?_
  refine on_graph_bind (on_refuseIf_bind Iff.rfl ?_)
  refine on_get_bind ?_
  rw [on_addComponent, answerBy_pure]

theorem answer_attachSubcomponent (parent : ComponentHandle) (slot kind : String) :
    answer (.attachSubcomponent parent slot kind) recorder =
      recorder.answerBy (recorder.graph.attachSubcomponent parent slot kind) fun (handle, graph) =>
        recorder.adopt (recorder.part parent) slot handle graph := by
  refine on_look_bind fun _ _ => on_refuseIf_bind Iff.rfl ?_
  refine on_look_bind fun owner found => on_refuseIf_bind Iff.rfl ?_
  refine on_get_bind ?_
  -- The parent is an older component, so what fills its slot leaves the new one as it is.
  have elder : parent ≠ recorder.graph.nextHandle := by
    rintro rfl
    rw [ComponentGraph.component, ComponentGraph.component?_nextHandle] at found
    cases found
  rw [on_bind, on_addComponent, answerBy_pure]
  simp only [adopt, ComponentGraph.component?_modify, if_neg elder]
  obtain ⟨result, tracking⟩ := recorder.tracking.create (some (recorder.part parent)) slot
  cases result <;> rfl

theorem answer_setParameters (handle : ComponentHandle) (parameters : Parameters) :
    answer (.setParameters handle parameters) recorder =
      recorder.answerBy (recorder.graph.setParameters handle parameters) fun graph =>
        (.ok (),
          { recorder with
            graph
            tracking := logParameters recorder.tracking (recorder.part handle) parameters }) := by
  refine on_look_bind fun _ _ => on_look_bind fun _ _ => on_get_bind ?_
  rw [on_bind, on_forM_log]
  rfl

theorem answer_createLink (name : String) :
    answer (.createLink name) recorder =
      recorder.answerBy (recorder.graph.createLink name) fun (handle, graph) =>
        (.ok handle, { recorder with graph }) := by
  refine on_look_bind fun _ _ => on_graph_bind (on_refuseIf_bind Iff.rfl ?_)
  rfl

theorem answer_connect (link : LinkHandle) (a b : LinkEnd) :
    answer (.connect link a b) recorder =
      recorder.answerBy (recorder.graph.connect link a b) fun (name, graph) =>
        let tracking := recorder.tracking.log recorder.entity .debug (name ++ ": " ++ graph.endsText a b)
        (.ok (),
          { recorder with
            graph
            tracking := tracking.connect (recorder.part a.component) (recorder.part b.component) }) := by
  refine on_look_bind fun _ _ => on_look_bind fun link _ => ?_
  refine on_look_bind fun _ _ => on_look_bind fun _ _ => ?_
  refine on_graph_bind (on_refuseIf_bind decide_eq_true_iff ?_)
  refine on_look_bind fun _ _ => on_look_bind fun _ _ => ?_
  rfl

theorem answer_configureStatistics (setup : StatisticsSetup) :
    answer (.configureStatistics setup) recorder =
      recorder.answerBy (recorder.graph.configureStatistics setup) fun graph =>
        (.ok (), { recorder with graph }) :=
  on_look_bind fun _ _ => rfl

theorem answer_finalize :
    answer .finalize recorder =
      recorder.answerBy recorder.graph.finalize fun graph =>
        let text :=
          s!"finalized with {graph.components.size} components and {graph.links.size} links"
        (.ok (), { recorder.log recorder.entity .debug text with graph }) :=
  on_look_bind fun _ _ => on_look_bind fun _ _ => rfl

theorem answer_componentName (handle : ComponentHandle) :
    answer (.componentName handle) recorder =
      recorder.answerBy (recorder.graph.component handle) fun component =>
        (.ok component.name, recorder) := by
  change (look (·.component handle) >>= fun component => pure component.name).on recorder = _
  rw [on_bind, on_look]
  cases recorder.graph.component handle <;> rfl

theorem answer_createEntity (parent : EntityHandle) (name : String) :
    answer (.createEntity parent name) recorder =
      match recorder.tracking.create (some parent) name with
      | (.error fault, tracking) => (.error (.fault fault), { recorder with tracking })
      | (.ok entity, tracking) => (.ok entity, { recorder with tracking }) := by
  change (createEntity parent name).on recorder = _
  rw [on_createEntity]
  obtain ⟨result, tracking⟩ := recorder.tracking.create (some parent) name
  cases result <;> rfl

end Recorder

end MemoryFabric

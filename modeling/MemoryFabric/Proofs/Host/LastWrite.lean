import MemoryFabric.Proofs.Host.Forest

/-!
# The last write of a parameter

Parameters of a component are set by one call, as often as one likes and for some keys at a time.  What a step
makes of a single parameter is what the step gives to it, or else what it has been (**`Step.value?_eq`**); so
after a run a parameter has the last value that an accepted call has given to it, and is missing when there
was none.

Main statement: **`Recorder.lastWriteWins`**.
-/

namespace MemoryFabric

set_option autoImplicit false

/-- The value that a command is to give to a parameter of a component. -/
def Command.given? (handle : ComponentHandle) (key : String) : Command → Option Parameter
  | .setParameters target parameters => if target = handle then parameters.get? key else none
  | _ => none

theorem Command.given?_of_free {command : Command} (free : command.call? = none)
    (handle : ComponentHandle) (key : String) : command.given? handle key = none := by
  cases command with
  | setParameters target parameters => cases free
  | _ => rfl

namespace ComponentGraph

variable {graph next : ComponentGraph} {handle target : ComponentHandle} {key : String}

/-! ## Single parameters -/

/-- The value of a parameter of a component. -/
def value? (graph : ComponentGraph) (handle : ComponentHandle) (key : String) : Option Parameter :=
  (graph.component? handle).bind fun component => component.parameters.get? key

theorem value?_of_component? {component : Component} (found : graph.component? handle = some component) :
    graph.value? handle key = component.parameters.get? key := by
  rw [value?, found, Option.bind_some]

/-- A component comes without parameters. -/
theorem value?_push {component : Component} (unset : component.parameters = ∅) :
    (graph.push component).value? handle key = graph.value? handle key := by
  rw [value?, component?_push]
  split
  · next last =>
      rw [value?, last, component?_nextHandle, Option.bind_some, unset]
      rfl
  · rfl

theorem value?_modify {change : Component → Component}
    (kept : ∀ component, (change component).parameters = component.parameters) :
    (graph.modify target change).value? handle key = graph.value? handle key := by
  rw [value?, component?_modify]
  split
  · rw [Option.bind_map, value?]
    exact congrArg _ (funext fun component => by rw [Function.comp_apply, kept])
  · rfl

theorem value?_extend {component : Component} (found : graph.component? target = some component)
    (parameters : Parameters) :
    (graph.modify target fun component => component.extend parameters).value? handle key =
      ((Command.setParameters target parameters).given? handle key).or (graph.value? handle key) := by
  rw [Command.given?, value?, component?_modify]
  split
  · next same =>
      rw [← same, value?_of_component? found, found, Option.map_some, Option.bind_some, Component.extend,
        SortedMap.get?_extend]
  · rfl

/-- **A step gives a parameter the value that its command says, and leaves all others as they are.** -/
theorem Step.value?_eq {command : Command} (step : graph.Step command next) (handle : ComponentHandle)
    (key : String) :
    next.value? handle key = (command.given? handle key).or (graph.value? handle key) := by
  cases step with
  | createComponent kinded named fresh => exact value?_push rfl
  | @attachSubcomponent parent owner slot kind kinded slotted found free =>
      have filled : ∀ component : Component,
          (component.fill slot graph.nextHandle).parameters = component.parameters := fun _ => rfl
      rw [withSubcomponent, value?_modify filled]
      exact value?_push rfl
  | setParameters parameters found => exact value?_extend found parameters
  | createLink fresh => rfl
  | connect unconnected first second different a_free b_free => rfl
  | configureStatistics setup => rfl
  | finalize connected => rfl

end ComponentGraph

namespace Recorder

variable {recorder first : Recorder}

/-! ## Writes in a run -/

/-- The value that a command gives to a parameter of a component: none when the command fails. -/
def written? (recorder : Recorder) (handle : ComponentHandle) (key : String) (command : Command) :
    Option Parameter :=
  if (answer command recorder).1.isOk then command.given? handle key else none

/-- The values that the commands of a run give to a parameter of a component, from the first to the last. -/
def writings (recorder : Recorder) (handle : ComponentHandle) (key : String) : List Command → List Parameter
  | [] => []
  | command :: rest =>
    (recorder.written? handle key command).toList ++
      (answer command recorder).2.writings handle key rest

/-- What one command does to a parameter. -/
theorem value?_answer (recorder : Recorder) (command : Command) (handle : ComponentHandle) (key : String) :
    (answer command recorder).2.graph.value? handle key =
      (recorder.written? handle key command).or (recorder.graph.value? handle key) := by
  have answers := recorder.answers_answer command
  rw [written?]
  generalize answer command recorder = outcome at answers
  cases answers with
  | refused error => rfl
  | faulted fault tracking => rfl
  | accepted opened step => exact step.value?_eq handle key
  | observed tracking free => rw [Command.given?_of_free free, ite_self, Option.none_or]

/-- **What a run does to a parameter**, by induction on its commands. -/
theorem value?_after (recorder : Recorder) (commands : List Command) (handle : ComponentHandle)
    (key : String) :
    (recorder.after commands).graph.value? handle key =
      (recorder.writings handle key commands).getLast?.or (recorder.graph.value? handle key) := by
  induction commands generalizing recorder with
  | nil => rfl
  | cons command rest ih =>
      rw [after_cons, ih, value?_answer, writings, List.getLast?_append, Option.or_assoc]
      cases recorder.written? handle key command <;> rfl

/-- After a run a parameter has the value that was last written to it, and only a command that writes to it can
change it. -/
structure LastWriteWins (first : Recorder) (commands : List Command) : Prop where
  /-- The value is the last one that has been written, and there is none before the first. -/
  value_eq : ∀ handle component, (first.after commands).graph.component? handle = some component →
    ∀ key, component.parameters.get? key = (first.writings handle key commands).getLast?
  /-- A command that fails, that is about something else, or that sets parameters of another component or under
  other keys leaves the value as it is. -/
  unchanged : ∀ command handle key,
    ((answer command (first.after commands)).1.isOk = true → ∀ parameters,
        command = .setParameters handle parameters → parameters.get? key = none) →
      (answer command (first.after commands)).2.graph.value? handle key =
        (first.after commands).graph.value? handle key

/-- **The last write wins**, for every parameter of every component and after every run. -/
theorem lastWriteWins (fresh : first.graph = .empty) (commands : List Command) :
    first.LastWriteWins commands := by
  refine ⟨fun handle component found key => ?_, fun command handle key silent => ?_⟩
  · have nothing : first.graph.value? handle key = none := by
      rw [fresh]
      rfl
    rw [← ComponentGraph.value?_of_component? found, value?_after, nothing, Option.or_none]
  · have unwritten : (first.after commands).written? handle key command = none := by
      rw [written?]
      split
      · next accepted =>
          cases command with
          | setParameters target parameters =>
              rw [Command.given?]
              split
              · next same => exact silent accepted parameters (by rw [same])
              · rfl
          | _ => rfl
      · rfl
    rw [value?_answer, unwritten, Option.none_or]

/-- A parameter that is written three times, the last time without success because the graph is closed, and a
subcomponent whose parameter of the same name is left alone. -/
theorem lastWriteWins_closed : ∃ first, start .silent = .ok first ∧ first.graph = .empty ∧
    ∃ commands, commands =
        [.createComponent "kind" "a", .setParameters ⟨0⟩ (.ofList [("x", .text "1"), ("y", .text "2")]),
          .attachSubcomponent ⟨0⟩ "b" "kind", .setParameters ⟨0⟩ (.ofList [("x", .text "3")]), .finalize,
          .setParameters ⟨0⟩ (.ofList [("x", .text "4")])] ∧
      first.LastWriteWins commands ∧ first.writings ⟨0⟩ "x" commands = [.text "1", .text "3"] ∧
      (first.after commands).graph.value? ⟨0⟩ "x" = some (.text "3") ∧
      (first.after commands).graph.value? ⟨0⟩ "y" = some (.text "2") ∧
      (first.after commands).graph.name? ⟨1⟩ = some "a.b" ∧
      (first.after commands).graph.value? ⟨1⟩ "x" = none :=
  ⟨_, rfl, rfl, _, rfl, lastWriteWins rfl _, by decide +kernel, by decide +kernel, by decide +kernel,
    by decide +kernel, by decide +kernel⟩

end Recorder

end MemoryFabric

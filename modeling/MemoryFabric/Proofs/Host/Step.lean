import MemoryFabric.Proofs.Host.Calls

/-!
# What a call makes of a graph

A graph accepts a call when all of its checks pass.  There is one equivalence for each call, which says when
the call is accepted and what it gives; `ComponentGraph.Step` is the relation between the graphs before and
after, with everything that the checks have made sure of.

A recorder answers a command in one of four ways (**`Recorder.answers_answer`**): it refuses it and stays as it
is, it faults for want of an identifier and keeps the graph, it accepts a call and takes a step, or it does
something that is no matter of the graph.  What holds of all graphs of a recorder is proved along steps.
-/

namespace MemoryFabric

set_option autoImplicit false

namespace ComponentGraph

variable {graph next : ComponentGraph}

/-! ## Checks -/

theorem checkOpen_eq_ok_iff {call : HostCall} {value : Unit} :
    graph.checkOpen call = .ok value ↔ graph.isFinalized = false := by
  cases closed : graph.isFinalized <;> simp [checkOpen, closed]

theorem component_eq_ok_iff {handle : ComponentHandle} {component : Component} :
    graph.component handle = .ok component ↔ graph.component? handle = some component := by
  cases found : graph.component? handle <;> simp [ComponentGraph.component, found]

theorem openLink_eq_ok_iff {handle : LinkHandle} {link : Link} :
    graph.openLink handle = .ok link ↔ graph.links[handle.index]? = some link ∧ link.ends = none := by
  rw [openLink]
  cases graph.links[handle.index]? with
  | none => simp
  | some other =>
      obtain ⟨name, ends⟩ := other
      cases ends with
      | none =>
          simp only [Option.isSome_none, Bool.false_eq_true, if_false, Except.ok.injEq,
            Option.some.injEq, iff_self_and]
          rintro rfl
          rfl
      | some pair =>
          simp only [Option.isSome_some, if_true, reduceCtorEq, Option.some.injEq, false_iff, not_and]
          rintro rfl
          exact Option.some_ne_none pair

theorem checkFree_eq_ok_iff {linkEnd : LinkEnd} {value : Unit} :
    graph.checkFree linkEnd = .ok value ↔ graph.linkAt? linkEnd.componentPort = none := by
  cases bound : graph.linkAt? linkEnd.componentPort <;> simp [checkFree, bound]

theorem checkConnected_eq_ok_iff {value : Unit} :
    graph.checkConnected = .ok value ↔ ∀ link ∈ graph.links, link.ends.isSome = true := by
  rw [checkConnected]
  cases found : graph.links.find? fun link => link.ends.isNone with
  | none =>
      rw [Array.find?_eq_none] at found
      refine iff_of_true rfl fun link member => Option.isSome_iff_ne_none.2 fun missing => ?_
      exact found link member (Option.isNone_iff_eq_none.2 missing)
  | some link =>
      have missing := Array.find?_some found
      rw [Option.isNone_iff_eq_none] at missing
      simp only [reduceCtorEq, false_iff]
      intro connected
      cases missing ▸ connected link (Array.mem_of_find?_eq_some found)

/-! ## Calls -/

/-- The graph with a new subcomponent in a slot of its owner. -/
def withSubcomponent (graph : ComponentGraph) (parent : ComponentHandle) (owner : Component)
    (slot kind : String) : ComponentGraph :=
  (graph.push (.bare (owner.name ++ "." ++ slot) kind (some (parent, slot)))).modify parent
    fun owner => owner.fill slot graph.nextHandle

/-- The graph with both ends of a link. -/
def withEnds (graph : ComponentGraph) (handle : LinkHandle) (a b : LinkEnd) : ComponentGraph :=
  { graph with
    links := graph.links.modify handle.index fun link => { link with ends := some (a, b) }
    linkByPort := (graph.linkByPort.insert a.componentPort handle).insert b.componentPort handle }

theorem isEmpty_or_isEmpty_eq_false_iff {first second : String} :
    (first.isEmpty || second.isEmpty) = false ↔ first ≠ "" ∧ second ≠ "" := by
  simp only [← Bool.not_eq_true, Bool.or_eq_true, String.isEmpty_iff, not_or, ne_eq]

theorem createComponent_eq_ok_iff {kind name : String} {handle : ComponentHandle} :
    graph.createComponent kind name = .ok (handle, next) ↔
      graph.isFinalized = false ∧ (kind ≠ "" ∧ name ≠ "") ∧
        graph.componentByName.contains name = false ∧
          graph.nextHandle = handle ∧ graph.push (.bare name kind none) = next := by
  simp only [createComponent, Attempt.bind_eq_ok_iff, checkOpen_eq_ok_iff, exists_and_left,
    Attempt.guard_eq_ok_iff, isEmpty_or_isEmpty_eq_false_iff, Bool.not_eq_true, Attempt.pure_eq_ok_iff,
    Prod.mk.injEq, exists_const]

theorem attachSubcomponent_eq_ok_iff {parent handle : ComponentHandle} {slot kind : String} :
    graph.attachSubcomponent parent slot kind = .ok (handle, next) ↔
      graph.isFinalized = false ∧ (kind ≠ "" ∧ slot ≠ "") ∧
        ∃ owner, graph.component? parent = some owner ∧ owner.slots.contains slot = false ∧
          graph.nextHandle = handle ∧ graph.withSubcomponent parent owner slot kind = next := by
  simp only [attachSubcomponent, Attempt.bind_eq_ok_iff, checkOpen_eq_ok_iff, exists_and_left,
    Attempt.guard_eq_ok_iff, isEmpty_or_isEmpty_eq_false_iff, Bool.not_eq_true, Attempt.pure_eq_ok_iff,
    component_eq_ok_iff, Prod.mk.injEq, exists_const, withSubcomponent]

theorem setParameters_eq_ok_iff {handle : ComponentHandle} {parameters : Parameters} :
    graph.setParameters handle parameters = .ok next ↔
      graph.isFinalized = false ∧ (∃ component, graph.component? handle = some component) ∧
        graph.modify handle (fun component => component.extend parameters) = next := by
  simp only [setParameters, Attempt.bind_eq_ok_iff, checkOpen_eq_ok_iff, exists_and_left,
    component_eq_ok_iff, Attempt.pure_eq_ok_iff, exists_and_right, exists_const]

theorem createLink_eq_ok_iff {name : String} {handle : LinkHandle} :
    graph.createLink name = .ok (handle, next) ↔
      graph.isFinalized = false ∧ graph.linkByName.contains name = false ∧
        ⟨graph.links.size⟩ = handle ∧ graph.withOpenLink name = next := by
  simp only [createLink, Attempt.bind_eq_ok_iff, checkOpen_eq_ok_iff, exists_and_left,
    Attempt.guard_eq_ok_iff, Bool.not_eq_true, Attempt.pure_eq_ok_iff, Prod.mk.injEq, exists_const,
    withOpenLink]

theorem connect_eq_ok_iff {handle : LinkHandle} {a b : LinkEnd} {name : String} :
    graph.connect handle a b = .ok (name, next) ↔
      graph.isFinalized = false ∧ graph.links[handle.index]? = some ⟨name, none⟩ ∧
        (∃ component, graph.component? a.component = some component) ∧
          (∃ component, graph.component? b.component = some component) ∧
            a.componentPort ≠ b.componentPort ∧ graph.linkAt? a.componentPort = none ∧
              graph.linkAt? b.componentPort = none ∧ graph.withEnds handle a b = next := by
  simp only [connect, Attempt.bind_eq_ok_iff, checkOpen_eq_ok_iff, exists_and_left,
    Attempt.guard_eq_ok_iff, openLink_eq_ok_iff, component_eq_ok_iff, checkFree_eq_ok_iff,
    Attempt.pure_eq_ok_iff, Prod.mk.injEq, exists_and_right, exists_const]
  refine and_congr_right fun _ => ⟨?_, ?_⟩
  · rintro ⟨⟨_, _⟩, ⟨found, rfl⟩, first, second, different, a_free, b_free, rfl, rfl⟩
    exact ⟨found, first, second, different, a_free, b_free, rfl⟩
  · rintro ⟨found, first, second, different, a_free, b_free, rfl⟩
    exact ⟨_, ⟨found, rfl⟩, first, second, different, a_free, b_free, rfl, rfl⟩

theorem configureStatistics_eq_ok_iff {setup : StatisticsSetup} :
    graph.configureStatistics setup = .ok next ↔
      graph.isFinalized = false ∧ { graph with statistics := some setup } = next := by
  simp only [configureStatistics, Attempt.bind_eq_ok_iff, checkOpen_eq_ok_iff, exists_and_left,
    Attempt.pure_eq_ok_iff, exists_const]

theorem finalize_eq_ok_iff :
    graph.finalize = .ok next ↔
      graph.isFinalized = false ∧ (∀ link ∈ graph.links, link.ends.isSome = true) ∧
        { graph with isFinalized := true } = next := by
  simp only [finalize, Attempt.bind_eq_ok_iff, checkOpen_eq_ok_iff, checkConnected_eq_ok_iff,
    exists_and_left, Attempt.pure_eq_ok_iff, exists_const]

/-! ## Steps -/

/-- How an open graph changes by a call that it accepts. -/
inductive Step (graph : ComponentGraph) : Command → ComponentGraph → Prop where
  | createComponent {kind name : String} (kinded : kind ≠ "") (named : name ≠ "")
      (fresh : graph.componentByName.contains name = false) :
      Step graph (.createComponent kind name) (graph.push (.bare name kind none))
  | attachSubcomponent {parent : ComponentHandle} {owner : Component} {slot kind : String}
      (kinded : kind ≠ "") (slotted : slot ≠ "") (found : graph.component? parent = some owner)
      (free : owner.slots.contains slot = false) :
      Step graph (.attachSubcomponent parent slot kind)
        (graph.withSubcomponent parent owner slot kind)
  | setParameters {handle : ComponentHandle} {component : Component} (parameters : Parameters)
      (found : graph.component? handle = some component) :
      Step graph (.setParameters handle parameters)
        (graph.modify handle fun component => component.extend parameters)
  | createLink {name : String} (fresh : graph.linkByName.contains name = false) :
      Step graph (.createLink name) (graph.withOpenLink name)
  | connect {handle : LinkHandle} {name : String} {a b : LinkEnd} {first second : Component}
      (unconnected : graph.links[handle.index]? = some ⟨name, none⟩)
      (first_found : graph.component? a.component = some first)
      (second_found : graph.component? b.component = some second)
      (different : a.componentPort ≠ b.componentPort)
      (a_free : graph.linkAt? a.componentPort = none)
      (b_free : graph.linkAt? b.componentPort = none) :
      Step graph (.connect handle a b) (graph.withEnds handle a b)
  | configureStatistics (setup : StatisticsSetup) :
      Step graph (.configureStatistics setup) { graph with statistics := some setup }
  | finalize (connected : ∀ link ∈ graph.links, link.ends.isSome = true) :
      Step graph .finalize { graph with isFinalized := true }

end ComponentGraph

/-! ## Answers of a recorder -/

namespace Recorder

variable {recorder : Recorder}

/-- A graph with a new component is kept, unless there is no identifier for the entity of the component. -/
theorem adopt_cases (recorder : Recorder) (parent : EntityHandle) (entityName : String)
    (handle : ComponentHandle) (graph : ComponentGraph) :
    (∃ after, recorder.adopt parent entityName handle graph = (.ok handle, after) ∧
        after.graph = graph) ∨
      ∃ fault tracking, recorder.adopt parent entityName handle graph =
        (.error (.fault fault), { recorder with tracking }) := by
  rw [adopt]
  cases recorder.tracking.create (some parent) entityName with
  | mk result tracking =>
      cases result with
      | error fault => exact .inr ⟨fault, tracking, rfl⟩
      | ok entity => exact .inl ⟨_, rfl, rfl⟩

/-- The ways in which a recorder answers a command. -/
inductive Answers (recorder : Recorder) (command : Command) :
    Attempt HostError command.Answer × Recorder → Prop where
  /-- A refused call changes nothing. -/
  | refused (error : HostError) : Answers recorder command (.error (.reported error), recorder)
  /-- Without an identifier for an entity only the tracker has changed. -/
  | faulted (fault : Fault) (tracking : Tracking) :
      Answers recorder command (.error (.fault fault), { recorder with tracking })
  /-- An accepted call takes a step. -/
  | accepted {value : command.Answer} {after : Recorder} (opened : recorder.graph.isFinalized = false)
      (step : recorder.graph.Step command after.graph) : Answers recorder command (.ok value, after)
  /-- The other commands leave the graph alone. -/
  | observed {value : command.Answer} (tracking : Tracking) (free : command.call? = none) :
      Answers recorder command (.ok value, { recorder with tracking })

/-- A call is refused or answered as one that the graph accepts. -/
theorem Answers.answerBy {command : Command} {α : Type} {result : Except HostError α}
    {accept : α → Attempt HostError command.Answer × Recorder}
    (accepted : ∀ value, result = .ok value → recorder.Answers command (accept value)) :
    recorder.Answers command (recorder.answerBy result accept) := by
  cases result with
  | error error => exact .refused error
  | ok value => exact accepted value rfl

/-- **A recorder answers every command in one of these ways.** -/
theorem answers_answer (recorder : Recorder) (command : Command) :
    recorder.Answers command (answer command recorder) := by
  cases command with
  | createComponent kind name =>
      rw [answer_createComponent]
      refine .answerBy ?_
      rintro ⟨handle, graph⟩ created
      obtain ⟨opened, ⟨kinded, named⟩, fresh, _, rfl⟩ :=
        ComponentGraph.createComponent_eq_ok_iff.1 created
      rcases recorder.adopt_cases recorder.entity name handle
          (recorder.graph.push (.bare name kind none)) with
        ⟨after, adopted, kept⟩ | ⟨fault, tracking, adopted⟩
      · simp only [adopted]
        exact .accepted opened (kept.symm ▸ .createComponent kinded named fresh)
      · simp only [adopted]
        exact .faulted fault tracking
  | attachSubcomponent parent slot kind =>
      rw [answer_attachSubcomponent]
      refine .answerBy ?_
      rintro ⟨handle, graph⟩ attached
      obtain ⟨opened, ⟨kinded, slotted⟩, owner, found, free, _, rfl⟩ :=
        ComponentGraph.attachSubcomponent_eq_ok_iff.1 attached
      rcases recorder.adopt_cases (recorder.part parent) slot handle
          (recorder.graph.withSubcomponent parent owner slot kind) with
        ⟨after, adopted, kept⟩ | ⟨fault, tracking, adopted⟩
      · simp only [adopted]
        exact .accepted opened (kept.symm ▸ .attachSubcomponent kinded slotted found free)
      · simp only [adopted]
        exact .faulted fault tracking
  | setParameters handle parameters =>
      rw [answer_setParameters]
      refine .answerBy fun graph changed => ?_
      obtain ⟨opened, ⟨_, found⟩, rfl⟩ := ComponentGraph.setParameters_eq_ok_iff.1 changed
      exact .accepted opened (.setParameters parameters found)
  | createLink name =>
      rw [answer_createLink]
      refine .answerBy ?_
      rintro ⟨handle, graph⟩ created
      obtain ⟨opened, fresh, _, rfl⟩ := ComponentGraph.createLink_eq_ok_iff.1 created
      exact .accepted opened (.createLink fresh)
  | connect link a b =>
      rw [answer_connect]
      refine .answerBy ?_
      rintro ⟨name, graph⟩ connected
      obtain ⟨opened, unconnected, ⟨_, first⟩, ⟨_, second⟩, different, a_free, b_free, rfl⟩ :=
        ComponentGraph.connect_eq_ok_iff.1 connected
      exact .accepted opened (.connect unconnected first second different a_free b_free)
  | configureStatistics setup =>
      rw [answer_configureStatistics]
      refine .answerBy fun graph configured => ?_
      obtain ⟨opened, rfl⟩ := ComponentGraph.configureStatistics_eq_ok_iff.1 configured
      exact .accepted opened (.configureStatistics setup)
  | finalize =>
      rw [answer_finalize]
      refine .answerBy fun graph closed => ?_
      obtain ⟨opened, connected, rfl⟩ := ComponentGraph.finalize_eq_ok_iff.1 closed
      exact .accepted opened (.finalize connected)
  | componentName handle =>
      rw [answer_componentName]
      exact .answerBy fun _ _ => .observed recorder.tracking rfl
  | createEntity parent name =>
      rw [answer_createEntity]
      cases recorder.tracking.create (some parent) name with
      | mk result tracking =>
          cases result with
          | error fault => exact .faulted fault tracking
          | ok entity => exact .observed tracking rfl
  | release entity => exact .observed (recorder.tracking.release entity) rfl
  | log entity level text => exact .observed (recorder.tracking.log entity level text) rfl

end Recorder

end MemoryFabric

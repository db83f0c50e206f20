import MemoryFabric.Fabric.Topology
import MemoryFabric.Proofs.Host.Calls
import MemoryFabric.Proofs.Tracking.Room

/-!
# What a build yields

A build that runs on a recorder can come to a value, report an error, or fault.  `Build.Yields` says, for
every recorder that has a given graph, that the build comes to a value and to a graph as described, unless
it faults because the tracker has no room for the entities that the build creates.  In particular it
reports no error.  There is one rule for each way to put builds together, and `Yields.bind` is the one that
counts the room.
-/

namespace MemoryFabric

set_option autoImplicit false

/-- The tracker of a recorder has room. -/
abbrev Recorder.HasRoom (recorder : Recorder) (entities : Nat) : Prop :=
  recorder.tracking.tracker.HasRoom entities

namespace Build

/-- On every recorder with the graph `before` the build comes to a result and takes room for at most `cost`
entities, unless there is not that much room. -/
def Yields {α : Type} (build : Build α) (cost : Nat) (before : ComponentGraph)
    (result : α → ComponentGraph → Prop) : Prop :=
  ∀ recorder : Recorder, recorder.graph = before →
    (∃ value after, build.run.run Recorder.host recorder = (.ok value, after) ∧
        result value after.graph ∧ ∀ spare, recorder.HasRoom (cost + spare) → after.HasRoom spare) ∨
      ¬ recorder.HasRoom cost ∧
        ∃ fault after, build.run.run Recorder.host recorder = (.error (.fault fault), after)

/-! ## Running builds -/

section Running

variable {α β : Type} {recorder after : Recorder}

theorem run_bind_ok {build : Build α} {rest : α → Build β} {value : α}
    (first : build.run.run Recorder.host recorder = (.ok value, after)) :
    (build >>= rest).run.run Recorder.host recorder = (rest value).run.run Recorder.host after := by
  have step : (build >>= rest).run.run Recorder.host recorder = _ :=
    Script.run_bind Recorder.host build.run _ recorder
  rw [step, first]
  rfl

theorem run_bind_error {build : Build α} {rest : α → Build β} {failure : Failure BuildError}
    (first : build.run.run Recorder.host recorder = (.error failure, after)) :
    (build >>= rest).run.run Recorder.host recorder = (.error failure, after) := by
  have step : (build >>= rest).run.run Recorder.host recorder = _ :=
    Script.run_bind Recorder.host build.run _ recorder
  rw [step, first]
  rfl

/-- Letting go of entities leaves the graph alone. -/
theorem releaseAll_graph (entities : List EntityHandle) (recorder : Recorder) :
    ((releaseAll entities).run Recorder.host recorder).2.graph = recorder.graph := by
  induction entities generalizing recorder with
  | nil => rfl
  | cons entity rest ih => exact ih { recorder with tracking := recorder.tracking.release entity }

theorem run_orRelease_ok {build : Build α} {value : α} (entities : List EntityHandle)
    (first : build.run.run Recorder.host recorder = (.ok value, after)) :
    (build.orRelease entities).run.run Recorder.host recorder = (.ok value, after) := by
  have step : (build.orRelease entities).run.run Recorder.host recorder = _ :=
    Script.run_bind Recorder.host build.run _ recorder
  rw [step, first]
  rfl

/-- A build that stops lets go of the entities then. -/
theorem run_orRelease_of_error {build : Build α} {failure : Failure BuildError}
    (entities : List EntityHandle)
    (first : build.run.run Recorder.host recorder = (.error failure, after)) :
    (build.orRelease entities).run.run Recorder.host recorder =
      (.error failure, ((releaseAll entities).run Recorder.host after).2) := by
  have step : (build.orRelease entities).run.run Recorder.host recorder = _ :=
    Script.run_bind Recorder.host build.run _ recorder
  rw [step, first]
  exact Script.run_bind Recorder.host (releaseAll entities) _ after

theorem run_orRelease_error {build : Build α} {failure : Failure BuildError}
    (entities : List EntityHandle)
    (first : build.run.run Recorder.host recorder = (.error failure, after)) :
    ∃ released, (build.orRelease entities).run.run Recorder.host recorder =
        (.error failure, released) ∧ released.graph = after.graph :=
  ⟨_, run_orRelease_of_error entities first, releaseAll_graph entities after⟩

theorem run_perform (command : Command) :
    (perform command).run.run Recorder.host recorder =
      (((Recorder.answer command recorder).1.mapError (Failure.map .host)),
        (Recorder.answer command recorder).2) := rfl

end Running

/-! ## Rules -/

namespace Yields

variable {α β : Type} {build : Build α} {cost less : Nat} {before : ComponentGraph}
  {result middle : α → ComponentGraph → Prop}

theorem weaken (yields : build.Yields less before middle) (le : less ≤ cost)
    (implies : ∀ value graph, middle value graph → result value graph) :
    build.Yields cost before result := by
  intro recorder same
  rcases yields recorder same with ⟨value, after, ran, holds, room⟩ | ⟨full, fault, after, ran⟩
  · refine .inl ⟨value, after, ran, implies _ _ holds, fun spare enough => room spare ?_⟩
    exact enough.mono (Nat.add_le_add_right le spare)
  · exact .inr ⟨fun enough => full (enough.mono le), fault, after, ran⟩

theorem pure (value : α) (cost : Nat) (before : ComponentGraph) :
    (Pure.pure value : Build α).Yields cost before fun given graph =>
      given = value ∧ graph = before := by
  intro recorder same
  refine .inl ⟨value, recorder, rfl, ⟨rfl, same⟩, fun spare enough => ?_⟩
  exact enough.mono (Nat.le_add_left spare cost)

/-- **One build after another takes the room of both.** -/
theorem bind {rest : α → Build β} {result : β → ComponentGraph → Prop}
    (first : build.Yields less before middle) (le : less ≤ cost)
    (second : ∀ value graph, middle value graph → (rest value).Yields (cost - less) graph result) :
    (build >>= rest).Yields cost before result := by
  intro recorder same
  rcases first recorder same with ⟨value, between, ran, holds, room⟩ | ⟨full, fault, after, ran⟩
  · rw [run_bind_ok ran]
    rcases second value between.graph holds between rfl with
      ⟨given, after, ran, holds, left⟩ | ⟨full, fault, after, ran⟩
    · refine .inl ⟨given, after, ran, holds, fun spare enough => left spare (room _ ?_)⟩
      exact enough.mono (by omega)
    · refine .inr ⟨fun enough => full (room _ (enough.mono ?_)), fault, after, ran⟩
      omega
  · rw [run_bind_error ran]
    exact .inr ⟨fun enough => full (enough.mono le), fault, after, rfl⟩

theorem orRelease (yields : build.Yields cost before result) (entities : List EntityHandle) :
    (build.orRelease entities).Yields cost before result := by
  intro recorder same
  rcases yields recorder same with ⟨value, after, ran, holds, room⟩ | ⟨full, fault, after, ran⟩
  · exact .inl ⟨value, after, run_orRelease_ok entities ran, holds, room⟩
  · obtain ⟨released, ran, _⟩ := run_orRelease_error entities ran
    exact .inr ⟨full, fault, released, ran⟩

/-- A call that is answered without a new entity. -/
theorem perform {command : Command} {value : command.Answer} {graph : ComponentGraph}
    (answers : ∀ recorder : Recorder, recorder.graph = before →
      ∃ after, Recorder.answer command recorder = (.ok value, after) ∧ after.graph = graph ∧
        ∀ spare, recorder.HasRoom spare → after.HasRoom spare) :
    (Build.perform command).Yields 0 before fun given after => given = value ∧ after = graph := by
  intro recorder same
  obtain ⟨after, answer, grown, room⟩ := answers recorder same
  refine .inl ⟨value, after, ?_, ⟨rfl, grown⟩, fun spare enough => room spare (by simpa using enough)⟩
  rw [run_perform, answer]
  rfl

/-- A call that is answered with a new entity, if there is room for one. -/
theorem performWithEntity {command : Command} {answered : command.Answer → Prop}
    {graph : ComponentGraph}
    (answers : ∀ recorder : Recorder, recorder.graph = before →
      (∃ value after, Recorder.answer command recorder = (.ok value, after) ∧ answered value ∧
          after.graph = graph ∧ ∀ spare, recorder.HasRoom (1 + spare) → after.HasRoom spare) ∨
        ¬ recorder.HasRoom 1 ∧
          ∃ fault after, Recorder.answer command recorder = (.error (.fault fault), after)) :
    (Build.perform command).Yields 1 before fun given after => answered given ∧ after = graph := by
  intro recorder same
  rcases answers recorder same with
    ⟨value, after, answer, holds, grown, room⟩ | ⟨full, fault, after, answer⟩
  · refine .inl ⟨value, after, ?_, ⟨holds, grown⟩, room⟩
    rw [run_perform, answer]
    rfl
  · refine .inr ⟨full, fault, after, ?_⟩
    rw [run_perform, answer]
    rfl

end Yields

/-! ## Calls -/

section Calls

variable {before graph : ComponentGraph}

theorem yields_createEntity (parent : EntityHandle) (name : String) (before : ComponentGraph) :
    (createEntity parent name).Yields 1 before fun _ after => after = before := by
  refine (@Yields.performWithEntity _ (.createEntity parent name) (fun _ => True) _
    fun recorder same => ?_).weaken (Nat.le_refl 1) fun _ _ holds => holds.2
  rcases recorder.tracking.create_cases (some parent) name with
    ⟨entity, tracking, created, room⟩ | ⟨full, fault, tracking, created⟩
  · refine .inl ⟨entity, { recorder with tracking }, ?_, trivial, same, room⟩
    simp only [Recorder.answer_createEntity, created]
  · refine .inr ⟨full, fault, { recorder with tracking }, ?_⟩
    simp only [Recorder.answer_createEntity, created]

theorem yields_log (entity : EntityHandle) (level : Level) (text : String) (before : ComponentGraph) :
    (log entity level text).Yields 0 before fun _ after => after = before := by
  refine (@Yields.perform _ (.log entity level text) () _ fun recorder same => ?_).weaken (Nat.le_refl 0)
    fun _ _ holds => holds.2
  exact ⟨recorder.log entity level text, rfl, same, fun _ => (Tracking.observe_hasRoom _ _).2⟩

theorem yields_ofBuilt {α : Type} {built : Built α} {value : α} (given : built = .ok value)
    (before : ComponentGraph) :
    (ofBuilt built).Yields 0 before fun result after => result = value ∧ after = before := by
  rw [given]
  exact Yields.pure value 0 before

/-- A graph that has grown is kept when its new component gets an entity. -/
theorem adopt_cases (recorder : Recorder) (parent : EntityHandle) (entityName : String)
    (handle : ComponentHandle) (graph : ComponentGraph) :
    (∃ value after, recorder.adopt parent entityName handle graph = (.ok value, after) ∧
        value = handle ∧ after.graph = graph ∧
          ∀ spare, recorder.HasRoom (1 + spare) → after.HasRoom spare) ∨
      ¬ recorder.HasRoom 1 ∧
        ∃ fault after, recorder.adopt parent entityName handle graph = (.error (.fault fault), after) := by
  rcases recorder.tracking.create_cases (some parent) entityName with
    ⟨entity, tracking, created, room⟩ | ⟨full, fault, tracking, created⟩
  · simp only [Recorder.adopt, created]
    refine .inl ⟨handle, _, rfl, rfl, rfl, fun spare enough => ?_⟩
    cases graph.component? handle with
    | none => exact room spare enough
    | some component => exact (Tracking.observe_hasRoom _ _).2 (room spare enough)
  · simp only [Recorder.adopt, created]
    exact .inr ⟨full, fault, _, rfl⟩

theorem yields_createComponent {kind name : String} {handle : ComponentHandle}
    (created : before.createComponent kind name = .ok (handle, graph)) :
    (createComponent kind name).Yields 1 before fun value after => value = handle ∧ after = graph := by
  refine @Yields.performWithEntity _ (.createComponent kind name) (fun value => value = handle) _
    fun recorder same => ?_
  subst same
  simp only [Recorder.answer_createComponent, Recorder.answerBy, created]
  exact adopt_cases recorder recorder.entity name handle graph

theorem yields_attachSubcomponent {parent handle : ComponentHandle} {slot kind : String}
    (attached : before.attachSubcomponent parent slot kind = .ok (handle, graph)) :
    (attachSubcomponent parent slot kind).Yields 1 before fun value after =>
      value = handle ∧ after = graph := by
  refine @Yields.performWithEntity _ (.attachSubcomponent parent slot kind)
    (fun value => value = handle) _ fun recorder same => ?_
  subst same
  simp only [Recorder.answer_attachSubcomponent, Recorder.answerBy, attached]
  exact adopt_cases recorder (recorder.part parent) slot handle graph

theorem logParameters_hasRoom (entity : EntityHandle) (parameters : Parameters) (spare : Nat)
    (tracking : Tracking) (room : tracking.tracker.HasRoom spare) :
    (Recorder.logParameters tracking entity parameters).tracker.HasRoom spare := by
  rw [Recorder.logParameters]
  induction parameters.toList generalizing tracking with
  | nil => exact room
  | cons entry rest ih => exact ih _ ((Tracking.observe_hasRoom _ _).2 room)

theorem yields_setParameters {component : ComponentHandle} {parameters : Parameters}
    (changed : before.setParameters component parameters = .ok graph) :
    (setParameters component parameters).Yields 0 before fun _ after => after = graph := by
  refine (@Yields.perform _ (.setParameters component parameters) () graph fun recorder same => ?_).weaken
    (Nat.le_refl 0) fun _ _ holds => holds.2
  subst same
  simp only [Recorder.answer_setParameters, Recorder.answerBy, changed]
  exact ⟨_, rfl, rfl, fun spare => logParameters_hasRoom _ _ _ _⟩

theorem yields_componentName {handle : ComponentHandle} {component : Component}
    (found : before.component? handle = some component) :
    (Build.perform (.componentName handle)).Yields 0 before fun name after =>
      name = component.name ∧ after = before := by
  refine Yields.perform fun recorder same => ⟨recorder, ?_, same, fun _ => id⟩
  subst same
  simp only [Recorder.answer_componentName, Recorder.answerBy, ComponentGraph.component, found]

theorem yields_createLink {name : String} {handle : LinkHandle}
    (created : before.createLink name = .ok (handle, graph)) :
    (createLink name).Yields 0 before fun value after => value = handle ∧ after = graph := by
  refine @Yields.perform _ (.createLink name) handle graph fun recorder same => ?_
  subst same
  simp only [Recorder.answer_createLink, Recorder.answerBy, created]
  exact ⟨_, rfl, rfl, fun _ => id⟩

theorem yields_connect {link : LinkHandle} {a b : LinkEnd} {name : String}
    (connected : before.connect link a b = .ok (name, graph)) :
    (connect link a b).Yields 0 before fun _ after => after = graph := by
  refine (@Yields.perform _ (.connect link a b) () graph fun recorder same => ?_).weaken
    (Nat.le_refl 0) fun _ _ holds => holds.2
  subst same
  simp only [Recorder.answer_connect, Recorder.answerBy, connected]
  exact ⟨_, rfl, rfl, fun spare room =>
    (Tracking.observe_hasRoom _ _).2 ((Tracking.observe_hasRoom _ _).2 room)⟩

theorem yields_configureStatistics {setup : StatisticsSetup}
    (configured : before.configureStatistics setup = .ok graph) :
    (configureStatistics setup).Yields 0 before fun _ after => after = graph := by
  refine (@Yields.perform _ (.configureStatistics setup) () graph fun recorder same => ?_).weaken
    (Nat.le_refl 0) fun _ _ holds => holds.2
  subst same
  simp only [Recorder.answer_configureStatistics, Recorder.answerBy, configured]
  exact ⟨_, rfl, rfl, fun _ => id⟩

theorem yields_finalize (closed : before.finalize = .ok graph) :
    finalize.Yields 0 before fun _ after => after = graph := by
  refine (@Yields.perform _ .finalize () graph fun recorder same => ?_).weaken
    (Nat.le_refl 0) fun _ _ holds => holds.2
  subst same
  simp only [Recorder.answer_finalize, Recorder.answerBy, closed]
  exact ⟨_, rfl, rfl, fun _ => (Tracking.observe_hasRoom _ _).2⟩

theorem yields_portOf {handle : ComponentHandle} {component : Component} (port : String)
    (found : before.component? handle = some component) :
    (portOf handle port).Yields 0 before fun id after =>
      id = ⟨component.name, port⟩ ∧ after = before := by
  refine (yields_componentName found).bind (Nat.le_refl 0) ?_
  rintro _ _ ⟨rfl, rfl⟩
  exact Yields.pure _ _ _

end Calls

/-! ## Components with parameters -/

section Components

variable {graph : ComponentGraph} {components : List Component} {kind : String}

theorem yields_createWith {name : String} (parameters : Parameters)
    (opened : graph.isFinalized = false) (kinded : kind ≠ "") (named : name ≠ "")
    (fresh : name ∉ components.map Component.name)
    (unknown : graph.componentByName.contains name = false) :
    (createWith kind name parameters).Yields 1 (graph.pushAll components) fun handle after =>
      handle = ⟨graph.components.size + components.length⟩ ∧
        after = graph.pushAll (components ++ [(Component.bare name kind none).extend parameters]) := by
  have created := ComponentGraph.createComponent_pushAll opened kinded named fresh unknown
  refine (yields_createComponent created).bind (Nat.le_refl 1) ?_
  rintro _ _ ⟨rfl, rfl⟩
  have found : (components ++ [Component.bare name kind none])[components.length]? =
      some (Component.bare name kind none) := by
    simp
  refine (yields_setParameters (ComponentGraph.setParameters_pushAll _ opened found)).bind
    (Nat.le_refl 0) ?_
  rintro _ _ rfl
  refine (Yields.pure _ _ _).weaken (Nat.le_refl 0) ?_
  rintro _ _ ⟨rfl, rfl⟩
  exact ⟨rfl, congrArg graph.pushAll (@modify_append _ _ [_] 0 _)⟩

theorem yields_attachWith (position : Nat) {slot : String} {owner : Component}
    (parameters : Parameters) (opened : graph.isFinalized = false) (kinded : kind ≠ "")
    (slotted : slot ≠ "") (found : components[position]? = some owner)
    (free : owner.slots.contains slot = false) :
    (attachWith ⟨graph.components.size + position⟩ slot kind parameters).Yields 1
      (graph.pushAll components) fun handle after =>
        handle = ⟨graph.components.size + components.length⟩ ∧
          after = graph.pushAll
            (components.modify position
                (fun owner => owner.fill slot ⟨graph.components.size + components.length⟩) ++
              [(Component.bare (owner.name ++ "." ++ slot) kind
                (some (⟨graph.components.size + position⟩, slot))).extend parameters]) := by
  have attached := ComponentGraph.attachSubcomponent_pushAll position opened kinded slotted found free
  refine (yields_attachSubcomponent attached).bind (Nat.le_refl 1) ?_
  rintro _ _ ⟨rfl, rfl⟩
  have length : (components.modify position fun owner =>
      owner.fill slot ⟨graph.components.size + components.length⟩).length = components.length :=
    List.length_modify _ _ _
  have found : (components.modify position
      (fun owner => owner.fill slot ⟨graph.components.size + components.length⟩) ++
        [Component.bare (owner.name ++ "." ++ slot) kind
          (some (⟨graph.components.size + position⟩, slot))])[components.length]? =
      some (Component.bare (owner.name ++ "." ++ slot) kind
        (some (⟨graph.components.size + position⟩, slot))) := by
    rw [List.getElem?_append_right (Nat.le_of_eq length), length]
    simp
  refine (yields_setParameters (ComponentGraph.setParameters_pushAll _ opened found)).bind
    (Nat.le_refl 0) ?_
  rintro _ _ rfl
  refine (Yields.pure _ _ _).weaken (Nat.le_refl 0) ?_
  rintro _ _ ⟨rfl, rfl⟩
  refine ⟨rfl, congrArg graph.pushAll ?_⟩
  have last := @modify_append Component
    (components.modify position fun owner =>
      owner.fill slot ⟨graph.components.size + components.length⟩)
    [Component.bare (owner.name ++ "." ++ slot) kind
      (some (⟨graph.components.size + position⟩, slot))] 0 fun component => component.extend parameters
  rw [length] at last
  exact last

end Components

end Build

end MemoryFabric

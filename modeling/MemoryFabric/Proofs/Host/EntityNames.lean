import MemoryFabric.Proofs.Host.Forest

/-!
# Entities of components

An entity gets its full name when it is created, and no event changes it: the full names are a list that only
grows (`Tracking.fullNames`).  A recorder creates an entity for every component in the call that creates the
component, so that the entities follow the components (`Recorder.PartsNamed`), and the entity of a subcomponent
is named after the entity of its parent and the slot.

Main statement: **`Recorder.formsForest_after`**, by which the components of every reachable graph are a
forest, with entities that are named accordingly, and have been what they are since they were created.
-/

namespace MemoryFabric

set_option autoImplicit false

namespace Tracking

variable {tracking : Tracking}

/-! ## Full names -/

/-- The full names of the entities, in the order of creation. -/
def fullNames (tracking : Tracking) : List String := tracking.entities.toList.map Entity.fullName

theorem fullNames_getElem? {handle : EntityHandle} :
    tracking.fullNames[handle.index]? = (tracking.get? handle).map Entity.fullName := by
  simp [fullNames, get?]

theorem fullNames_modify {handle : EntityHandle} {change : Entity → Entity}
    (kept : ∀ entity, (change entity).fullName = entity.fullName) :
    (tracking.modify handle change).fullNames = tracking.fullNames := by
  rw [fullNames, modify, Array.toList_modify]
  exact map_modify kept

theorem fullNames_countChild (parent : Option EntityHandle) :
    (tracking.countChild parent).fullNames = tracking.fullNames := by
  cases parent with
  | none => rfl
  | some parent => exact fullNames_modify fun _ => rfl

theorem fullNames_observe (event : Event) : (tracking.observe event).fullNames = tracking.fullNames :=
  rfl

/-- A creation appends the full name of the new entity, or there was no identifier for it. -/
theorem fullNames_create (tracking : Tracking) (parent : Option EntityHandle) (name : String) :
    (∃ after, tracking.create parent name = (.ok ⟨tracking.fullNames.length⟩, after) ∧
        after.fullNames = tracking.fullNames ++ [tracking.childName parent name]) ∨
      ∃ fault after, tracking.create parent name = (.error fault, after) ∧
        after.fullNames = tracking.fullNames := by
  rw [create]
  cases tracking.tracker.freshIdentifier with
  | error fault => exact .inr ⟨fault, tracking, rfl, rfl⟩
  | ok fresh =>
      obtain ⟨identifier, tracker⟩ := fresh
      cases registered : tracker.register identifier (tracking.childName parent name) with
      | mk fault? tracker =>
          simp only [registered]
          cases fault? with
          | some fault => exact .inr ⟨fault, _, rfl, rfl⟩
          | none =>
              have length : tracking.fullNames.length = tracking.entities.size := by simp [fullNames]
              refine .inl ⟨_, by rw [length], ?_⟩
              rw [fullNames_observe, fullNames_countChild]
              simp [fullNames]

theorem fullNames_buryAt {index : Nat} : (buryAt index tracking).fullNames = tracking.fullNames := by
  induction index using Nat.strongRecOn generalizing tracking with
  | _ index ih =>
      rw [buryAt]
      split
      · rfl
      · next entity found =>
          split
          · rfl
          · split
            · rfl
            · next parent _ =>
                split
                · next before =>
                    rw [ih parent.index before, fullNames_modify, fullNames_observe]
                    exact fun _ => rfl
                · rw [fullNames_modify, fullNames_observe]
                  exact fun _ => rfl

theorem fullNames_release (tracking : Tracking) (handle : EntityHandle) :
    (tracking.release handle).fullNames = tracking.fullNames := by
  rw [release]
  split
  · rw [fullNames_buryAt, fullNames_modify]
    exact fun _ => rfl
  · rfl

end Tracking

namespace Recorder

variable {recorder after : Recorder}

/-! ## Entities follow the components -/

theorem fullNames_logParameters (tracking : Tracking) (entity : EntityHandle) (parameters : Parameters) :
    (logParameters tracking entity parameters).fullNames = tracking.fullNames := by
  rw [logParameters]
  induction parameters.toList generalizing tracking with
  | nil => rfl
  | cons entry rest ih => exact ih _

/-- The full name of the entity of a component. -/
def partName? (recorder : Recorder) (handle : ComponentHandle) : Option String :=
  (recorder.parts[handle.index]?).bind fun entity =>
    (recorder.tracking.get? entity).map Entity.fullName

/-- There is an entity for every component; that of a subcomponent is named after that of its parent and the
slot. -/
structure PartsNamed (recorder : Recorder) : Prop where
  size_eq : recorder.parts.size = recorder.graph.origins.length
  known : ∀ entity ∈ recorder.parts, entity.index < recorder.tracking.fullNames.length
  named : ∀ handle parent slot, recorder.graph.place? handle = some (parent, slot) →
    recorder.partName? handle = (recorder.partName? parent).map fun name => name ++ "::" ++ slot

theorem partName?_eq {handle : ComponentHandle} :
    recorder.partName? handle = (recorder.parts[handle.index]?).bind fun entity =>
      recorder.tracking.fullNames[entity.index]? := by
  simp only [partName?, Tracking.fullNames_getElem?]

/-- Every component has an entity. -/
theorem PartsNamed.exists_partName? (named : recorder.PartsNamed) {handle : ComponentHandle}
    {component : Component} (found : recorder.graph.component? handle = some component) :
    ∃ name, recorder.partName? handle = some name := by
  have inside : handle.index < recorder.parts.size := by
    rw [named.size_eq, ComponentGraph.origins_length]
    exact ComponentGraph.index_lt_of_component? found
  rw [partName?_eq, Array.getElem?_eq_getElem inside, Option.bind_some]
  exact ⟨_, List.getElem?_eq_getElem (named.known _ (Array.getElem_mem inside))⟩

theorem fullName_part {handle : ComponentHandle} {name : String}
    (known : recorder.partName? handle = some name) :
    recorder.tracking.fullName (recorder.part handle) = name := by
  obtain ⟨entity, part, named⟩ := Option.bind_eq_some_iff.1 known
  rw [Recorder.part, Array.getD_eq_getD_getElem?, part, Option.getD_some, Tracking.fullName, named,
    Option.getD_some]

/-- The name of an entity stays while parts and full names only grow. -/
theorem partName?_of_isPrefix (parts : recorder.parts.toList <+: after.parts.toList)
    (names : recorder.tracking.fullNames <+: after.tracking.fullNames) {handle : ComponentHandle}
    {name : String} (known : recorder.partName? handle = some name) :
    after.partName? handle = some name := by
  rw [partName?_eq, ← Array.getElem?_toList] at known ⊢
  obtain ⟨entity, part, named⟩ := Option.bind_eq_some_iff.1 known
  obtain ⟨later, parts⟩ := parts
  obtain ⟨created, names⟩ := names
  rw [← parts, List.getElem?_append_left (List.getElem?_eq_some_iff.1 part).1, part, Option.bind_some,
    ← names, List.getElem?_append_left (List.getElem?_eq_some_iff.1 named).1, named]

theorem PartsNamed.named_of_isPrefix (named : recorder.PartsNamed)
    (parts : recorder.parts.toList <+: after.parts.toList)
    (names : recorder.tracking.fullNames <+: after.tracking.fullNames) {handle parent : ComponentHandle}
    {slot : String} (placed : recorder.graph.place? handle = some (parent, slot)) :
    after.partName? handle = (after.partName? parent).map fun name => name ++ "::" ++ slot := by
  obtain ⟨component, found, _⟩ := Option.bind_eq_some_iff.1 placed
  obtain ⟨name, part_named⟩ := named.exists_partName? found
  exact ComponentGraph.inherited_of_kept recorder.partName? after.partName?
    (fun _ _ => partName?_of_isPrefix parts names) part_named (named.named handle parent slot placed)

theorem PartsNamed.of_same (named : recorder.PartsNamed)
    (origins : after.graph.origins = recorder.graph.origins) (same : after.parts = recorder.parts)
    (names : recorder.tracking.fullNames <+: after.tracking.fullNames) : after.PartsNamed where
  size_eq := by rw [same, origins, named.size_eq]
  known entity member := by
    rw [same] at member
    exact Nat.lt_of_lt_of_le (named.known entity member) names.length_le
  named handle parent slot placed := by
    rw [ComponentGraph.place?_congr origins] at placed
    exact named.named_of_isPrefix (same ▸ List.prefix_rfl) names placed

/-- A new component gets the newest entity. -/
theorem PartsNamed.of_grown (named : recorder.PartsNamed) {origin : Origin} {fullName : String}
    (origins : after.graph.origins = recorder.graph.origins ++ [origin])
    (parts : after.parts = recorder.parts.push ⟨recorder.tracking.fullNames.length⟩)
    (names : after.tracking.fullNames = recorder.tracking.fullNames ++ [fullName])
    (inherited : ∀ parent slot, origin.parent = some (parent, slot) →
      ∃ name, recorder.partName? parent = some name ∧ name ++ "::" ++ slot = fullName) :
    after.PartsNamed := by
  have parts_grown : recorder.parts.toList <+: after.parts.toList := by
    rw [parts, Array.toList_push]
    exact List.prefix_append _ _
  have names_grown : recorder.tracking.fullNames <+: after.tracking.fullNames :=
    names ▸ List.prefix_append _ _
  refine ⟨?_, fun entity member => ?_, fun handle parent slot placed => ?_⟩
  · rw [parts, origins, Array.size_push, named.size_eq, List.length_append, List.length_singleton]
  · rw [names, List.length_append, List.length_singleton]
    rw [parts, Array.mem_push] at member
    rcases member with before | rfl
    · exact Nat.lt_succ_of_lt (named.known entity before)
    · exact Nat.lt_succ_self _
  · rw [ComponentGraph.place?_concat origins] at placed
    split at placed
    · next new =>
        -- The newest entity is behind all full names that there were.
        obtain ⟨name, above, rfl⟩ := inherited parent slot placed
        have last : handle.index = recorder.parts.size := by
          rw [new, named.size_eq, ComponentGraph.origins_length]
          rfl
        rw [partName?_of_isPrefix parts_grown names_grown above, partName?_eq, parts, last,
          Array.getElem?_push_size, Option.bind_some, names, List.getElem?_concat_length]
        rfl
    · exact named.named_of_isPrefix parts_grown names_grown placed

theorem PartsNamed.adopt (named : recorder.PartsNamed) {parent : EntityHandle} {entityName : String}
    {handle : ComponentHandle} {graph : ComponentGraph} {origin : Origin}
    (origins : graph.origins = recorder.graph.origins ++ [origin])
    (inherited : ∀ owner slot, origin.parent = some (owner, slot) →
      ∃ name, recorder.partName? owner = some name ∧
        name ++ "::" ++ slot = recorder.tracking.childName (some parent) entityName) :
    (recorder.adopt parent entityName handle graph).2.PartsNamed := by
  rw [Recorder.adopt]
  rcases recorder.tracking.fullNames_create (some parent) entityName with
    ⟨tracking, created, names⟩ | ⟨fault, tracking, created, names⟩
  · simp only [created]
    refine named.of_grown origins rfl ?_ inherited
    split
    · exact names
    · exact names
  · simp only [created]
    exact named.of_same rfl rfl (names ▸ List.prefix_rfl)

/-- A refused call changes nothing. -/
theorem PartsNamed.answerBy (named : recorder.PartsNamed) {α β : Type} {result : Except HostError α}
    {accept : α → Attempt HostError β × Recorder}
    (accepted : ∀ value, result = .ok value → (accept value).2.PartsNamed) :
    (recorder.answerBy result accept).2.PartsNamed := by
  cases result with
  | error error => exact named
  | ok value => exact accepted value rfl

/-- **Every command keeps the entities in step with the components.** -/
theorem PartsNamed.answer (named : recorder.PartsNamed) (command : Command) :
    (answer command recorder).2.PartsNamed := by
  cases command with
  | createComponent kind name =>
      rw [answer_createComponent]
      refine named.answerBy ?_
      rintro ⟨handle, graph⟩ created
      obtain ⟨_, _, _, _, rfl⟩ := ComponentGraph.createComponent_eq_ok_iff.1 created
      refine named.adopt ComponentGraph.origins_push fun owner slot placed => ?_
      cases placed
  | attachSubcomponent parent slot kind =>
      rw [answer_attachSubcomponent]
      refine named.answerBy ?_
      rintro ⟨handle, graph⟩ attached
      obtain ⟨_, _, owner, found, _, _, rfl⟩ := ComponentGraph.attachSubcomponent_eq_ok_iff.1 attached
      refine named.adopt ComponentGraph.origins_withSubcomponent ?_
      rintro _ _ ⟨⟩
      obtain ⟨name, known⟩ := named.exists_partName? found
      exact ⟨name, known, by rw [Tracking.childName, fullName_part known]⟩
  | setParameters handle parameters =>
      rw [answer_setParameters]
      refine named.answerBy fun graph changed => ?_
      obtain ⟨_, _, rfl⟩ := ComponentGraph.setParameters_eq_ok_iff.1 changed
      exact named.of_same ComponentGraph.origins_extend rfl
        (fullNames_logParameters _ _ _ ▸ List.prefix_rfl)
  | createLink name =>
      rw [answer_createLink]
      refine named.answerBy ?_
      rintro ⟨handle, graph⟩ created
      obtain ⟨_, _, _, rfl⟩ := ComponentGraph.createLink_eq_ok_iff.1 created
      exact named.of_same rfl rfl List.prefix_rfl
  | connect link a b =>
      rw [answer_connect]
      refine named.answerBy ?_
      rintro ⟨name, graph⟩ connected
      obtain ⟨_, _, _, _, _, _, _, rfl⟩ := ComponentGraph.connect_eq_ok_iff.1 connected
      exact named.of_same rfl rfl List.prefix_rfl
  | configureStatistics setup =>
      rw [answer_configureStatistics]
      refine named.answerBy fun graph configured => ?_
      obtain ⟨_, rfl⟩ := ComponentGraph.configureStatistics_eq_ok_iff.1 configured
      exact named.of_same rfl rfl List.prefix_rfl
  | finalize =>
      rw [answer_finalize]
      refine named.answerBy fun graph closed => ?_
      obtain ⟨_, _, rfl⟩ := ComponentGraph.finalize_eq_ok_iff.1 closed
      exact named.of_same rfl rfl List.prefix_rfl
  | componentName handle =>
      rw [answer_componentName]
      exact named.answerBy fun _ _ => named
  | createEntity parent name =>
      rw [answer_createEntity]
      rcases recorder.tracking.fullNames_create (some parent) name with
        ⟨tracking, created, names⟩ | ⟨fault, tracking, created, names⟩
      · simp only [created]
        exact named.of_same rfl rfl (names ▸ List.prefix_append _ _)
      · simp only [created]
        exact named.of_same rfl rfl (names ▸ List.prefix_rfl)
  | release entity =>
      exact named.of_same rfl rfl (recorder.tracking.fullNames_release entity ▸ List.prefix_rfl)
  | log entity level text => exact named.of_same rfl rfl List.prefix_rfl

theorem partsNamed_after (named : recorder.PartsNamed) (commands : List Command) :
    (recorder.after commands).PartsNamed := by
  induction commands generalizing recorder with
  | nil => exact named
  | cons command rest ih => exact ih (named.answer command)

/-! ## Reachable graphs -/

/-- After a run the components are a forest, their entities are named along it, and every component is what it
has been created as. -/
structure FormsForest (first : Recorder) (commands : List Command) : Prop where
  forest : (first.after commands).graph.IsForest
  /-- Every component has an entity. -/
  has_entity : ∀ handle component, (first.after commands).graph.component? handle = some component →
    ∃ name, (first.after commands).partName? handle = some name
  /-- The entity of a subcomponent is named after the entity of its parent. -/
  entity_named : ∀ handle parent slot,
    (first.after commands).graph.place? handle = some (parent, slot) →
      (first.after commands).partName? handle =
        ((first.after commands).partName? parent).map fun name => name ++ "::" ++ slot
  /-- Name, kind and parent of a component never change. -/
  kept : ∀ earlier later, earlier ++ later = commands → ∀ handle component,
    (first.after earlier).graph.component? handle = some component →
      ∃ last, (first.after commands).graph.component? handle = some last ∧
        last.name = component.name ∧ last.kind = component.kind ∧ last.parent = component.parent

/-- A recorder starts without components. -/
theorem start_eq_ok {tracker : Tracker} {first : Recorder} (started : start tracker = .ok first) :
    first.graph = .empty ∧ first.parts = #[] := by
  simp only [start, Attempt.bind_eq_ok_iff, Attempt.pure_eq_ok_iff] at started
  obtain ⟨top, _, entity, _, rfl⟩ := started
  exact ⟨rfl, rfl⟩

theorem component?_after {earlier later : List Command} {first : Recorder} {handle : ComponentHandle}
    {component : Component} (found : (first.after earlier).graph.component? handle = some component) :
    ∃ last, (first.after (earlier ++ later)).graph.component? handle = some last ∧
      last.origin = component.origin := by
  obtain ⟨appended, grown⟩ := (first.after earlier).origins_isPrefix_after later
  have before : (first.after earlier).graph.origins[handle.index]? = some component.origin := by
    rw [ComponentGraph.origins_getElem?, found]
    rfl
  rw [← List.getElem?_append_left (List.getElem?_eq_some_iff.1 before).1, grown,
    ComponentGraph.origins_getElem?, ← after_append] at before
  exact Option.map_eq_some_iff.1 before

/-- **The components of every reachable graph are a forest.** -/
theorem formsForest_after {tracker : Tracker} {first : Recorder} (started : start tracker = .ok first)
    (commands : List Command) : first.FormsForest commands := by
  obtain ⟨fresh, no_parts⟩ := start_eq_ok started
  have mirrored : first.graph.SlotsMirrored := by
    rw [fresh]
    exact ⟨fun _ _ _ => iff_of_false nofun nofun, nofun, nofun⟩
  have named : first.PartsNamed := by
    refine ⟨?_, ?_, ?_⟩
    · rw [no_parts, fresh]
      rfl
    · rw [no_parts]
      nofun
    · rw [fresh]
      nofun
  have named := partsNamed_after named commands
  refine ⟨(slotsMirrored_after mirrored commands).isForest, fun _ _ found => ?_, named.named, ?_⟩
  · exact named.exists_partName? found
  · rintro earlier later rfl handle component found
    obtain ⟨last, last_found, same⟩ := component?_after found
    obtain ⟨name, kind, parent⟩ := Origin.mk.inj same
    exact ⟨last, last_found, name, kind, parent⟩

/-- A subcomponent of a subcomponent; a second one in the same slot, and one of a component that does not exist
are refused. -/
theorem formsForest_nested : ∃ first, start .silent = .ok first ∧
    ∃ commands, commands =
        [.createComponent "kind" "a", .attachSubcomponent ⟨0⟩ "b" "kind",
          .attachSubcomponent ⟨0⟩ "b" "kind", .attachSubcomponent ⟨1⟩ "c" "kind",
          .attachSubcomponent ⟨7⟩ "d" "kind"] ∧
      first.FormsForest commands ∧
        (first.after commands).graph.origins =
          [⟨"a", "kind", none⟩, ⟨"a.b", "kind", some (⟨0⟩, "b")⟩, ⟨"a.b.c", "kind", some (⟨1⟩, "c")⟩] ∧
        (first.after commands).partName? ⟨2⟩ = some "top::graph::a::b::c" :=
  ⟨_, rfl, _, rfl, @formsForest_after .silent _ rfl _, by decide +kernel, by decide +kernel⟩

end Recorder

end MemoryFabric

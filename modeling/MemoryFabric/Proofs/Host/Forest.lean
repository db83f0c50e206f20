import MemoryFabric.Proofs.Host.Run

/-!
# Subcomponents and slots

A subcomponent knows its parent and its slot, and the parent knows what is in its slots.  The two are written
down in different records, by one call.  `SlotsMirrored` says that each is the other read backwards, that a
parent is older than its subcomponents, and that a subcomponent is named after its parent and its slot; every
step keeps it.  So the components of a graph are a forest (**`SlotsMirrored.isForest`**).

What a component has been created with, its name, its kind and its parent, never changes
(`Step.origins_isPrefix`).
-/

namespace MemoryFabric

set_option autoImplicit false

/-- What a component is created with. -/
structure Origin where
  name : String
  kind : String
  parent : Option (ComponentHandle × String)
  deriving DecidableEq, Repr

/-- What the component has been created with. -/
def Component.origin (component : Component) : Origin :=
  ⟨component.name, component.kind, component.parent⟩

namespace ComponentGraph

variable {graph next : ComponentGraph}

/-! ## Origins -/

/-- What the components have been created with, in the order of the components. -/
def origins (graph : ComponentGraph) : List Origin := graph.components.toList.map Component.origin

theorem origins_push {component : Component} :
    (graph.push component).origins = graph.origins ++ [component.origin] := by
  simp [origins, push]

theorem origins_modify {handle : ComponentHandle} {change : Component → Component}
    (kept : ∀ component, (change component).origin = component.origin) :
    (graph.modify handle change).origins = graph.origins := by
  rw [origins, modify, Array.toList_modify]
  exact map_modify kept

theorem origins_extend {handle : ComponentHandle} {parameters : Parameters} :
    (graph.modify handle fun component => component.extend parameters).origins = graph.origins :=
  origins_modify fun _ => rfl

theorem origins_withSubcomponent {parent : ComponentHandle} {owner : Component} {slot kind : String} :
    (graph.withSubcomponent parent owner slot kind).origins =
      graph.origins ++ [⟨owner.name ++ "." ++ slot, kind, some (parent, slot)⟩] := by
  rw [withSubcomponent, origins_modify, origins_push]
  · rfl
  · exact fun _ => rfl

theorem origins_length : graph.origins.length = graph.components.size := by
  simp [origins]

theorem origins_getElem? {handle : ComponentHandle} :
    graph.origins[handle.index]? = (graph.component? handle).map Component.origin := by
  simp [origins, component?]

/-- Every step keeps the origins that there are. -/
theorem Step.origins_isPrefix {command : Command} (step : graph.Step command next) :
    graph.origins <+: next.origins := by
  cases step with
  | createComponent kinded named fresh =>
      rw [origins_push]
      exact List.prefix_append _ _
  | attachSubcomponent kinded slotted found free =>
      rw [origins_withSubcomponent]
      exact List.prefix_append _ _
  | setParameters parameters found => exact origins_extend.symm ▸ List.prefix_rfl
  | createLink fresh => exact List.prefix_rfl
  | connect unconnected first second different a_free b_free => exact List.prefix_rfl
  | configureStatistics setup => exact List.prefix_rfl
  | finalize connected => exact List.prefix_rfl

/-! ## Places and slots -/

/-- The parent of a component with the slot that the component is in. -/
def place? (graph : ComponentGraph) (handle : ComponentHandle) : Option (ComponentHandle × String) :=
  (graph.component? handle).bind Component.parent

/-- The full name of a component. -/
def name? (graph : ComponentGraph) (handle : ComponentHandle) : Option String :=
  (graph.component? handle).map Component.name

/-- What is in a slot of a component. -/
def held? (graph : ComponentGraph) (owner : ComponentHandle) (slot : String) : Option ComponentHandle :=
  (graph.component? owner).bind fun component => component.slots.get? slot

theorem place?_nextHandle : graph.place? graph.nextHandle = none := by
  rw [place?, component?_nextHandle]
  rfl

theorem place?_eq {handle : ComponentHandle} :
    graph.place? handle = (graph.origins[handle.index]?).bind Origin.parent := by
  rw [origins_getElem?, Option.bind_map]
  rfl

theorem place?_congr (same : next.origins = graph.origins) (handle : ComponentHandle) :
    next.place? handle = graph.place? handle := by
  rw [place?_eq, place?_eq, same]

/-- A new component has the place that it has been created with. -/
theorem place?_concat {origin : Origin} (grown : next.origins = graph.origins ++ [origin])
    (handle : ComponentHandle) :
    next.place? handle =
      if handle = graph.nextHandle then origin.parent else graph.place? handle := by
  obtain ⟨index⟩ := handle
  rw [place?_eq, place?_eq, grown]
  split
  · next last =>
      cases last
      rw [← origins_length, List.getElem?_concat_length]
      rfl
  · next other =>
      have different : index ≠ graph.origins.length := by
        rw [origins_length]
        exact fun same => other (congrArg ComponentHandle.mk same)
      congr 1
      rcases Nat.lt_or_gt_of_ne different with before | behind
      · exact List.getElem?_append_left before
      · rw [List.getElem?_eq_none (Nat.le_of_lt behind), List.getElem?_eq_none]
        rw [List.length_append, List.length_singleton]
        exact behind

theorem exists_name?_of_place? {handle : ComponentHandle} {place : ComponentHandle × String}
    (placed : graph.place? handle = some place) : ∃ name, graph.name? handle = some name := by
  obtain ⟨component, found, _⟩ := Option.bind_eq_some_iff.1 placed
  exact ⟨component.name, by rw [name?, found]; rfl⟩

theorem name?_eq {handle : ComponentHandle} :
    graph.name? handle = (graph.origins[handle.index]?).map Origin.name := by
  rw [origins_getElem?, Option.map_map]
  rfl

/-- A name stays as long as the origins do. -/
theorem name?_of_origins_isPrefix (grown : graph.origins <+: next.origins) {handle : ComponentHandle}
    {name : String} (named : graph.name? handle = some name) : next.name? handle = some name := by
  obtain ⟨appended, grown⟩ := grown
  rw [name?_eq] at named ⊢
  obtain ⟨origin, known, rfl⟩ := Option.map_eq_some_iff.1 named
  rw [← grown, List.getElem?_append_left (List.getElem?_eq_some_iff.1 known).1, known]
  rfl

theorem index_lt_of_component? {handle : ComponentHandle} {component : Component}
    (found : graph.component? handle = some component) : handle.index < graph.nextHandle.index :=
  (Array.getElem?_eq_some_iff.1 found).1

theorem held?_push {component : Component} (empty : component.slots = ∅) {owner : ComponentHandle}
    {slot : String} : (graph.push component).held? owner slot = graph.held? owner slot := by
  rw [held?, held?, component?_push]
  split
  · next last =>
      rw [last, component?_nextHandle, Option.bind_some, empty]
      rfl
  · rfl

theorem held?_extend {handle owner : ComponentHandle} {parameters : Parameters} {slot : String} :
    (graph.modify handle fun component => component.extend parameters).held? owner slot =
      graph.held? owner slot := by
  rw [held?, component?_modify]
  split
  · rw [Option.bind_map]
    rfl
  · rfl

theorem held?_withSubcomponent {parent other : ComponentHandle} {owner : Component}
    {slot place kind : String} (found : graph.component? parent = some owner) :
    (graph.withSubcomponent parent owner slot kind).held? other place =
      if (other, place) = (parent, slot) then some graph.nextHandle else graph.held? other place := by
  have before : parent ≠ graph.nextHandle := by
    rintro rfl
    cases component?_nextHandle.symm.trans found
  rw [withSubcomponent, held?, component?_modify]
  by_cases same : parent = other
  · subst same
    rw [if_pos rfl, component?_push, if_neg before, found, Option.map_some, Option.bind_some, held?,
      found, Option.bind_some, Component.fill, SortedMap.get?_insert]
    simp only [Prod.mk.injEq, true_and]
  · rw [if_neg same, if_neg fun both => same (congrArg Prod.fst both).symm]
    exact held?_push rfl

/-! ## Parents and slots mirror each other -/

/-- Parents and slots say the same, and with them go the handles and the names. -/
structure SlotsMirrored (graph : ComponentGraph) : Prop where
  place_iff : ∀ handle parent slot,
    graph.place? handle = some (parent, slot) ↔ graph.held? parent slot = some handle
  parent_before : ∀ handle parent slot, graph.place? handle = some (parent, slot) →
    parent.index < handle.index
  /-- A subcomponent is named after its parent and its slot. -/
  named : ∀ handle parent slot, graph.place? handle = some (parent, slot) →
    graph.name? handle = (graph.name? parent).map fun name => name ++ "." ++ slot

/-- A name that is made from the name of a parent remains so while both names stay. -/
theorem inherited_of_kept (before after : ComponentHandle → Option String)
    (kept : ∀ handle name, before handle = some name → after handle = some name)
    {handle parent : ComponentHandle} {extend : String → String} {name : String}
    (named : before handle = some name) (inherited : before handle = (before parent).map extend) :
    after handle = (after parent).map extend := by
  obtain ⟨above, parent_named, rfl⟩ := Option.map_eq_some_iff.1 (inherited.symm.trans named)
  rw [kept handle _ named, kept parent _ parent_named]
  rfl

/-- Names of subcomponents stay when the origins do. -/
theorem SlotsMirrored.named_of_isPrefix (mirrored : graph.SlotsMirrored)
    (grown : graph.origins <+: next.origins) {handle parent : ComponentHandle} {slot : String}
    (placed : graph.place? handle = some (parent, slot)) :
    next.name? handle = (next.name? parent).map fun name => name ++ "." ++ slot := by
  obtain ⟨name, named⟩ := exists_name?_of_place? placed
  exact inherited_of_kept graph.name? next.name? (fun _ _ => name?_of_origins_isPrefix grown)
    named (mirrored.named handle parent slot placed)

theorem SlotsMirrored.of_same (mirrored : graph.SlotsMirrored)
    (grown : graph.origins <+: next.origins)
    (places : ∀ handle, next.place? handle = graph.place? handle)
    (slots : ∀ owner slot, next.held? owner slot = graph.held? owner slot) : next.SlotsMirrored where
  place_iff handle parent slot := by
    rw [places, slots]
    exact mirrored.place_iff handle parent slot
  parent_before handle parent slot placed :=
    mirrored.parent_before handle parent slot ((places handle).symm.trans placed)
  named handle parent slot placed :=
    mirrored.named_of_isPrefix grown ((places handle).symm.trans placed)

section Attached

variable {parent : ComponentHandle} {owner : Component} {slot kind : String}

/-- In a free slot the new subcomponent is the only one, and it is in no other slot. -/
theorem SlotsMirrored.place_iff_withSubcomponent (mirrored : graph.SlotsMirrored)
    (found : graph.component? parent = some owner) (free : owner.slots.contains slot = false)
    (handle above : ComponentHandle) (place : String) :
    (graph.withSubcomponent parent owner slot kind).place? handle = some (above, place) ↔
      (graph.withSubcomponent parent owner slot kind).held? above place = some handle := by
  have empty : graph.held? parent slot = none := by
    rw [held?, found, Option.bind_some]
    exact Option.isNone_iff_eq_none.1 (Option.isSome_eq_false_iff.1 free)
  rw [place?_concat origins_withSubcomponent, held?_withSubcomponent found]
  by_cases new : handle = graph.nextHandle
  · subst new
    rw [if_pos rfl, Option.some.injEq]
    split
    · next same => exact iff_of_true same.symm rfl
    · next other =>
        rw [← mirrored.place_iff, place?_nextHandle]
        exact iff_of_false (Ne.symm other) nofun
  · rw [if_neg new]
    split
    · next same =>
        -- The slot was empty, so that no older component has this place.
        cases same
        rw [mirrored.place_iff, empty]
        exact iff_of_false nofun fun last => new (Option.some.inj last).symm
    · exact mirrored.place_iff handle above place

theorem name?_withSubcomponent :
    (graph.withSubcomponent parent owner slot kind).name? graph.nextHandle =
      some (owner.name ++ "." ++ slot) := by
  rw [name?_eq, origins_withSubcomponent, nextHandle, ← origins_length, List.getElem?_concat_length]
  rfl

/-- A new subcomponent is younger than its parent, and named after it. -/
theorem SlotsMirrored.withSubcomponent (mirrored : graph.SlotsMirrored)
    (found : graph.component? parent = some owner) (free : owner.slots.contains slot = false) :
    (graph.withSubcomponent parent owner slot kind).SlotsMirrored := by
  have grown : graph.origins <+: (graph.withSubcomponent parent owner slot kind).origins :=
    origins_withSubcomponent ▸ List.prefix_append _ _
  refine ⟨mirrored.place_iff_withSubcomponent found free, fun handle above place placed => ?_,
    fun handle above place placed => ?_⟩
  · rw [place?_concat origins_withSubcomponent] at placed
    split at placed
    · next new =>
        cases placed
        exact new ▸ index_lt_of_component? found
    · exact mirrored.parent_before handle above place placed
  · rw [place?_concat origins_withSubcomponent] at placed
    split at placed
    · next new =>
        cases placed
        have parent_named : graph.name? parent = some owner.name := by
          rw [name?, found]
          rfl
        rw [name?_of_origins_isPrefix grown parent_named, new, name?_withSubcomponent]
        rfl
    · exact mirrored.named_of_isPrefix grown placed

end Attached

/-- **Every step keeps parents and slots the mirror of each other.** -/
theorem SlotsMirrored.step (mirrored : graph.SlotsMirrored) {command : Command}
    (step : graph.Step command next) : next.SlotsMirrored := by
  have grown := step.origins_isPrefix
  cases step with
  | createComponent kinded named fresh =>
      refine mirrored.of_same grown (fun handle => ?_) fun owner slot => held?_push rfl
      rw [place?_concat origins_push]
      split
      · next last =>
          rw [last, place?_nextHandle]
          rfl
      · rfl
  | attachSubcomponent kinded slotted found free => exact mirrored.withSubcomponent found free
  | setParameters parameters found =>
      exact mirrored.of_same grown (place?_congr origins_extend) fun owner slot => held?_extend
  | createLink fresh => exact mirrored.of_same grown (fun _ => rfl) fun _ _ => rfl
  | connect unconnected first second different a_free b_free =>
      exact mirrored.of_same grown (fun _ => rfl) fun _ _ => rfl
  | configureStatistics setup => exact mirrored.of_same grown (fun _ => rfl) fun _ _ => rfl
  | finalize connected => exact mirrored.of_same grown (fun _ => rfl) fun _ _ => rfl

/-! ## Forests -/

/-- Going on from parent to parent ends at a component that is in no slot. -/
inductive EndsAtTop (graph : ComponentGraph) : ComponentHandle → Prop where
  | top {handle : ComponentHandle} {component : Component}
      (found : graph.component? handle = some component) (alone : component.parent = none) :
      EndsAtTop graph handle
  | inside {handle parent : ComponentHandle} {slot : String}
      (placed : graph.place? handle = some (parent, slot)) (above : EndsAtTop graph parent) :
      EndsAtTop graph handle

/-- The components of a graph are a forest. -/
structure IsForest (graph : ComponentGraph) : Prop extends SlotsMirrored graph where
  endsAtTop : ∀ handle component, graph.component? handle = some component → graph.EndsAtTop handle
  /-- Every slot that holds something is the place of one component. -/
  one_held : ∀ parent slot, (graph.held? parent slot).isSome = true →
    ∃! handle, graph.place? handle = some (parent, slot)
  /-- Every component with a parent is in one slot. -/
  one_slot : ∀ handle, (graph.place? handle).isSome = true →
    ∃! place : ComponentHandle × String, graph.held? place.1 place.2 = some handle

/-- A parent is older than its subcomponents, so there is a last one. -/
theorem SlotsMirrored.endsAtTop (mirrored : graph.SlotsMirrored) {handle : ComponentHandle}
    {component : Component} (found : graph.component? handle = some component) :
    graph.EndsAtTop handle := by
  cases parent : component.parent with
  | none => exact .top found parent
  | some place =>
      have placed : graph.place? handle = some place := by
        rw [place?, found]
        exact parent
      have before := mirrored.parent_before _ _ _ placed
      obtain ⟨owner, owner_found, _⟩ :=
        Option.bind_eq_some_iff.1 ((mirrored.place_iff _ _ _).1 placed)
      exact .inside placed (mirrored.endsAtTop owner_found)
termination_by handle.index

/-- **Components whose parents and slots mirror each other are a forest.** -/
theorem SlotsMirrored.isForest (mirrored : graph.SlotsMirrored) : graph.IsForest where
  toSlotsMirrored := mirrored
  endsAtTop _ _ found := mirrored.endsAtTop found
  one_held parent slot filled := by
    obtain ⟨handle, held⟩ := Option.isSome_iff_exists.1 filled
    refine ⟨handle, (mirrored.place_iff _ _ _).2 held, fun other placed => ?_⟩
    exact Option.some.inj (((mirrored.place_iff _ _ _).1 placed).symm.trans held)
  one_slot handle inside := by
    obtain ⟨⟨parent, slot⟩, placed⟩ := Option.isSome_iff_exists.1 inside
    refine ⟨(parent, slot), (mirrored.place_iff _ _ _).1 placed, fun other held => ?_⟩
    exact Option.some.inj (((mirrored.place_iff _ _ _).2 held).symm.trans placed)

end ComponentGraph

namespace Recorder

/-! ## Runs -/

theorem origins_isPrefix_after (recorder : Recorder) (commands : List Command) :
    recorder.graph.origins <+: (recorder.after commands).graph.origins :=
  @after_keeps recorder (fun graph => recorder.graph.origins <+: graph.origins)
    (fun _ step before => before.trans step.origins_isPrefix) commands List.prefix_rfl

theorem slotsMirrored_after {recorder : Recorder} (mirrored : recorder.graph.SlotsMirrored)
    (commands : List Command) : (recorder.after commands).graph.SlotsMirrored :=
  after_keeps (fun _ step mirrored => mirrored.step step) commands mirrored

end Recorder

end MemoryFabric

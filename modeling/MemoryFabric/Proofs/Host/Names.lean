import MemoryFabric.Proofs.Host.Forest

/-!
# Names of components

A component is created under a name that no other component has, or in a slot that its owner has not filled
yet; a subcomponent is named after its owner and its slot.  The second check does not look at names, and names
and slots may contain dots, so that a subcomponent can get the name of a component that exists already.  The
index of names then forgets the earlier component.

A command that does this is said to shadow a name (`Recorder.Shadows`).  Main statement:
**`Recorder.namesIdentify_iff`**, by which names identify components after a run exactly when no command of
the run has shadowed a name.
-/

namespace MemoryFabric

set_option autoImplicit false

namespace ComponentGraph

variable {graph next : ComponentGraph}

/-! ## The names and their index -/

/-- The full names of the components, in the order of the components. -/
def names (graph : ComponentGraph) : List String := graph.components.toList.map Component.name

/-- The index of names is what the names make of it; of two equal names the later one counts. -/
def NamesIndexed (graph : ComponentGraph) : Prop :=
  graph.componentByName = .ofList (numbered ComponentHandle.mk 0 graph.names)

theorem names_getElem?_eq_some_iff {handle : ComponentHandle} {name : String} :
    graph.names[handle.index]? = some name ↔
      ∃ component, graph.component? handle = some component ∧ component.name = name := by
  simp [names, component?]

theorem names_eq : graph.names = graph.origins.map Origin.name := by
  rw [names, origins, List.map_map]
  rfl

theorem names_congr (same : next.origins = graph.origins) : next.names = graph.names := by
  rw [names_eq, names_eq, same]

theorem names_concat {origin : Origin} (grown : next.origins = graph.origins ++ [origin]) :
    next.names = graph.names ++ [origin.name] := by
  rw [names_eq, names_eq, grown, List.map_append, List.map_singleton]

theorem NamesIndexed.push (indexed : graph.NamesIndexed) (component : Component) :
    (graph.push component).NamesIndexed := by
  have behind : graph.nextHandle = ⟨graph.names.length⟩ := by simp [names, nextHandle]
  rw [NamesIndexed, names_concat origins_push, numbered_append, SortedMap.ofList, SortedMap.insertAll_append,
    ← SortedMap.ofList, ← indexed, ComponentGraph.push, behind, Nat.zero_add]
  rfl

theorem NamesIndexed.of_same_names (indexed : graph.NamesIndexed) (names : next.names = graph.names)
    (byName : next.componentByName = graph.componentByName) : next.NamesIndexed := by
  rw [NamesIndexed, names, byName]
  exact indexed

/-- Every step keeps the index of names. -/
theorem NamesIndexed.step (indexed : graph.NamesIndexed) {command : Command}
    (step : graph.Step command next) : next.NamesIndexed := by
  cases step with
  | createComponent kinded named fresh => exact indexed.push _
  | attachSubcomponent kinded slotted found free =>
      exact (indexed.push _).of_same_names (names_congr (origins_modify fun _ => rfl)) rfl
  | setParameters parameters found => exact indexed.of_same_names (names_congr origins_extend) rfl
  | createLink fresh => exact indexed.of_same_names rfl rfl
  | connect unconnected first second different a_free b_free => exact indexed.of_same_names rfl rfl
  | configureStatistics setup => exact indexed.of_same_names rfl rfl
  | finalize connected => exact indexed.of_same_names rfl rfl

/-! ## Look-ups by name -/

/-- What is found has the name. -/
theorem NamesIndexed.names_of_find? (indexed : graph.NamesIndexed) {name : String}
    {handle : ComponentHandle} (found : graph.find? name = some handle) :
    graph.names[handle.index]? = some name := by
  rw [find?, indexed] at found
  rcases SortedMap.mem_of_get?_insertAll found with member | before
  · obtain ⟨position, named, rfl⟩ := mem_numbered_iff.1 member
    rw [Nat.zero_add]
    exact named
  · cases before

/-- With different names every component is found by its name. -/
theorem NamesIndexed.find?_of_names (indexed : graph.NamesIndexed) (distinct : graph.names.Nodup)
    {name : String} {handle : ComponentHandle} (named : graph.names[handle.index]? = some name) :
    graph.find? name = some handle := by
  rw [find?, indexed]
  refine SortedMap.get?_insertAll_of_mem ?_ (mem_numbered_iff.2 ⟨handle.index, named, ?_⟩)
  · rw [numbered_keys]
    exact distinct
  · rw [Nat.zero_add]

theorem NamesIndexed.contains_iff (indexed : graph.NamesIndexed) {name : String} :
    graph.componentByName.contains name = true ↔ name ∈ graph.names := by
  rw [indexed, SortedMap.ofList, SortedMap.contains_insertAll, numbered_keys, Bool.or_eq_true,
    decide_eq_true_iff]
  exact or_iff_left nofun

/-- The names of a graph identify its components. -/
structure NamesIdentify (graph : ComponentGraph) : Prop where
  /-- No two components have one name. -/
  nodup : graph.names.Nodup
  /-- The name of a component finds the component. -/
  find?_name : ∀ handle component, graph.component? handle = some component →
    graph.find? component.name = some handle
  /-- The name of a component gives the parameters of the component. -/
  parameters?_name : ∀ handle component, graph.component? handle = some component →
    graph.parameters? component.name = some component.parameters

theorem NamesIndexed.namesIdentify (indexed : graph.NamesIndexed) (distinct : graph.names.Nodup) :
    graph.NamesIdentify := by
  have found : ∀ handle component, graph.component? handle = some component →
      graph.find? component.name = some handle := fun handle component known =>
    indexed.find?_of_names distinct (names_getElem?_eq_some_iff.2 ⟨component, known, rfl⟩)
  refine ⟨distinct, found, fun handle component known => ?_⟩
  simp only [parameters?, found handle component known, Option.bind_eq_bind, Option.bind_some, known]
  rfl

/-- The full name of the subcomponent that a command attaches. -/
def slotName? (graph : ComponentGraph) : Command → Option String
  | .attachSubcomponent parent slot _ =>
    (graph.component? parent).map fun owner => owner.name ++ "." ++ slot
  | _ => none

theorem nodup_names_append_iff (distinct : graph.names.Nodup) {name : String} :
    (graph.names ++ [name]).Nodup ↔ name ∉ graph.names := by
  rw [List.nodup_append_comm, List.singleton_append, List.nodup_cons, and_iff_left distinct]

theorem slotName?_of_free {command : Command} (free : command.call? = none) :
    graph.slotName? command = none := by
  cases command with
  | attachSubcomponent parent slot kind => cases free
  | _ => rfl

/-- With different names a step keeps them different, unless it attaches a subcomponent under one of them. -/
theorem Step.nodup_names_iff (indexed : graph.NamesIndexed) (distinct : graph.names.Nodup)
    {command : Command} (step : graph.Step command next) :
    next.names.Nodup ↔ ∀ name ∈ graph.slotName? command, name ∉ graph.names := by
  cases step with
  | @createComponent kind name kinded named fresh =>
      have unknown : name ∉ graph.names := by
        rw [← indexed.contains_iff, fresh]
        exact Bool.false_ne_true
      refine iff_of_true ?_ nofun
      rw [names_concat origins_push, nodup_names_append_iff distinct]
      exact unknown
  | attachSubcomponent kinded slotted found free =>
      rw [names_concat origins_withSubcomponent, nodup_names_append_iff distinct, slotName?, found]
      simp
  | setParameters parameters found =>
      rw [names_congr origins_extend]
      exact iff_of_true distinct nofun
  | createLink fresh => exact iff_of_true distinct nofun
  | connect unconnected first second different a_free b_free => exact iff_of_true distinct nofun
  | configureStatistics setup => exact iff_of_true distinct nofun
  | finalize connected => exact iff_of_true distinct nofun

end ComponentGraph

namespace Recorder

variable {recorder first : Recorder} {commands : List Command}

/-! ## Shadowed names -/

/-- A command attaches a subcomponent under the name of a component that exists already. -/
def Shadows (recorder : Recorder) (command : Command) : Prop :=
  (answer command recorder).1.isOk = true ∧
    ∃ name ∈ recorder.graph.slotName? command, name ∈ recorder.graph.names

instance (recorder : Recorder) (command : Command) : Decidable (recorder.Shadows command) :=
  inferInstanceAs (Decidable (_ ∧ _))

/-- No command of a run shadows a name. -/
def NeverShadows : Recorder → List Command → Prop
  | _, [] => True
  | recorder, command :: rest =>
    ¬ recorder.Shadows command ∧ (answer command recorder).2.NeverShadows rest

instance decidableNeverShadows :
    (recorder : Recorder) → (commands : List Command) → Decidable (recorder.NeverShadows commands)
  | _, [] => .isTrue trivial
  | recorder, command :: rest =>
    @instDecidableAnd _ _ inferInstance (decidableNeverShadows (answer command recorder).2 rest)

/-- With different names a command keeps them different exactly when it shadows none of them. -/
theorem nodup_names_answer_iff (indexed : recorder.graph.NamesIndexed)
    (distinct : recorder.graph.names.Nodup) (command : Command) :
    (answer command recorder).2.graph.names.Nodup ↔ ¬ recorder.Shadows command := by
  have answers := recorder.answers_answer command
  rw [Shadows]
  generalize answer command recorder = outcome at answers
  cases answers with
  | refused error => exact iff_of_true distinct nofun
  | faulted fault tracking => exact iff_of_true distinct nofun
  | accepted opened step =>
      rw [step.nodup_names_iff indexed distinct]
      simp [Except.isOk, Except.toBool]
  | observed tracking free =>
      rw [ComponentGraph.slotName?_of_free free]
      exact iff_of_true distinct nofun

theorem names_isPrefix_after (recorder : Recorder) (commands : List Command) :
    recorder.graph.names <+: (recorder.after commands).graph.names := by
  rw [ComponentGraph.names_eq, ComponentGraph.names_eq]
  exact (recorder.origins_isPrefix_after commands).map _

theorem namesIndexed_after (indexed : recorder.graph.NamesIndexed) (commands : List Command) :
    (recorder.after commands).graph.NamesIndexed :=
  after_keeps (fun _ step indexed => indexed.step step) commands indexed

/-- Once two components have one name they keep it, so that the first shadowed name decides. -/
theorem nodup_names_after_iff (indexed : recorder.graph.NamesIndexed)
    (distinct : recorder.graph.names.Nodup) (commands : List Command) :
    (recorder.after commands).graph.names.Nodup ↔ recorder.NeverShadows commands := by
  induction commands generalizing recorder with
  | nil => exact iff_of_true distinct trivial
  | cons command rest ih =>
      have now := nodup_names_answer_iff indexed distinct command
      rw [after_cons, NeverShadows, ← now]
      constructor
      · intro later
        have kept := ((answer command recorder).2.names_isPrefix_after rest).sublist.nodup later
        exact ⟨kept, (ih (namesIndexed_after indexed [command]) kept).1 later⟩
      · rintro ⟨kept, rest_shadows⟩
        exact (ih (namesIndexed_after indexed [command]) kept).2 rest_shadows

/-- Names identify components after a run, and so they have done all the time. -/
structure NamesIdentify (first : Recorder) (commands : List Command) : Prop where
  identify : (first.after commands).graph.NamesIdentify
  /-- What has once been found under a name is found under it to the end. -/
  kept : ∀ earlier later, earlier ++ later = commands → ∀ name handle,
    (first.after earlier).graph.find? name = some handle →
      (first.after commands).graph.find? name = some handle

/-- **Names identify components exactly as long as no attachment shadows a name.** -/
theorem namesIdentify_iff (fresh : first.graph = .empty) (commands : List Command) :
    first.NamesIdentify commands ↔ first.NeverShadows commands := by
  have indexed : first.graph.NamesIndexed := by
    rw [fresh]
    rfl
  have distinct : first.graph.names.Nodup := by
    rw [fresh]
    exact List.nodup_nil
  rw [← nodup_names_after_iff indexed distinct]
  refine ⟨fun identify => identify.identify.nodup, fun last_distinct => ?_⟩
  refine ⟨(namesIndexed_after indexed commands).namesIdentify last_distinct, ?_⟩
  rintro earlier later rfl name handle found
  refine (namesIndexed_after indexed _).find?_of_names last_distinct ?_
  have named := (namesIndexed_after indexed earlier).names_of_find? found
  obtain ⟨appended, grown⟩ := (first.after earlier).names_isPrefix_after later
  rw [after_append, ← grown, List.getElem?_append_left (List.getElem?_eq_some_iff.1 named).1]
  exact named

/-- A run with two subcomponents that shadows no name: a component named like the first of them, and a second
subcomponent in its slot are refused. -/
theorem namesIdentify_two_slots : ∃ first, start .silent = .ok first ∧ first.graph = .empty ∧
    ∃ commands, commands =
        [.createComponent "kind" "a", .attachSubcomponent ⟨0⟩ "b" "kind",
          .createComponent "kind" "a.b", .attachSubcomponent ⟨0⟩ "b" "kind",
          .attachSubcomponent ⟨1⟩ "c" "kind"] ∧
      first.NamesIdentify commands ∧
        (first.after commands).graph.names = ["a", "a.b", "a.b.c"] :=
  ⟨_, rfl, rfl, _, rfl, (namesIdentify_iff rfl _).2 (by decide +kernel), by decide +kernel⟩

/-- A subcomponent can be named like a component that exists, which is not found by its name any more. -/
theorem not_namesIdentify_shadowed : ∃ first, start .silent = .ok first ∧ first.graph = .empty ∧
    ∃ earlier, earlier = [.createComponent "kind" "a", .createComponent "kind" "a.b"] ∧
      (first.after earlier).graph.find? "a.b" = some ⟨1⟩ ∧
      ∃ commands, commands = earlier ++ [.attachSubcomponent ⟨0⟩ "b" "kind"] ∧
        (first.after commands).graph.find? "a.b" = some ⟨2⟩ ∧ ¬ first.NamesIdentify commands := by
  refine ⟨_, rfl, rfl, _, rfl, by decide +kernel, _, rfl, by decide +kernel, fun identify => ?_⟩
  have distinct := identify.identify.nodup
  revert distinct
  decide +kernel

end Recorder

end MemoryFabric

import MemoryFabric.Proofs.Fabric.FreshBuild
import MemoryFabric.Proofs.Host.ByName

/-!
# Creating nodes in any order

The second phase of a build creates the cluster first and then the memory nodes from the first to the last.
Nothing depends on this order: no two of these parts have a name in common, so each can be created behind any
others, and each is described in the same way wherever its components begin (`Creation.isBlock`).  Only the
numbers of the components differ.

Main statement: **`createFresh_sameByName`**, by which any two orders of the same parts give graphs that are
the same by name, under trackers that have identifiers enough.
-/

namespace MemoryFabric

set_option autoImplicit false

/-! ## Parts that are created by one call -/

/-- A part of a fabric that is created by one call. -/
inductive Creation where
  /-- The cluster; its shared cache has a node number. -/
  | cluster (cacheNode : Nat)
  | memoryNode (descriptor : NodeDescriptor)
  deriving DecidableEq, Repr

namespace Creation

/-- Create the part. -/
def build (parent : EntityHandle) (settings : Settings) : Creation → Build Unit
  | cluster cacheNode => do
    let _ ← Cluster.create parent settings cacheNode
  | memoryNode descriptor => do
    let _ ← MemoryNode.create parent settings descriptor

/-- Create parts from the first to the last. -/
def buildAll (parent : EntityHandle) (settings : Settings) : List Creation → Build Unit
  | [] => return ()
  | creation :: rest => do
    creation.build parent settings
    buildAll parent settings rest

/-- The cluster and the memory nodes of a partition. -/
def ofPartitioned (partitioned : Partitioned) (cacheNode : Nat) : List Creation :=
  cluster cacheNode :: partitioned.descriptors.map memoryNode

/-- The parts of the fabric that are created, in their order. -/
def parts (settings : Settings) : Creation → List Part
  | cluster _ => Cluster.parts settings
  | memoryNode descriptor => Part.ofMemoryNode descriptor.node

/-- The components, the first of which gets the number `base`. -/
def components (settings : Settings) : Creation → Nat → List Component
  | cluster cacheNode, base => Cluster.componentsFrom settings cacheNode base
  | memoryNode descriptor, base => MemoryNode.components settings descriptor base

/-- The number of the entities. -/
def cost (settings : Settings) : Creation → Nat
  | cluster _ => Cluster.entityCount settings
  | memoryNode _ => 5

/-- The descriptions of the components in a graph of their own. -/
def descriptions (settings : Settings) (creation : Creation) : List Description :=
  (ComponentGraph.empty.pushAll (creation.components settings 0)).descriptions

end Creation

/-- Create parts on a fresh graph under a tracker. -/
def createFresh (tracker : Tracker) (parent : EntityHandle) (settings : Settings)
    (order : List Creation) : Except Fault (Built Unit × Recorder) := do
  let recorder ← Recorder.start tracker
  return (Creation.buildAll parent settings order).run.run Recorder.host recorder

/-! ## Blocks -/

section Blocks

variable {settings : Settings} {base : Nat} {nameOf : ComponentHandle → Option String}

theorem MemoryNode.isBlock_components {descriptor : NodeDescriptor} :
    IsBlock (components settings descriptor)
      (ComponentGraph.empty.pushAll (components settings descriptor 0)).descriptions := by
  intro base nameOf named
  have controller : nameOf ⟨base⟩ = _ := named 0 _ rfl
  have accelerator : nameOf ⟨base + 1⟩ = _ := named 1 _ rfl
  have storage : nameOf ⟨base + 2⟩ = _ := named 2 _ rfl
  have interface : nameOf ⟨base + 3⟩ = _ := named 3 _ rfl
  have slots (first second : ComponentHandle) :
      (((∅ : SortedMap String ComponentHandle).insert "backend" first).insert "cpulink" second).toList =
        [("backend", first), ("cpulink", second)] := SortedMap.toList_insert_insert (by decide)
  rw [ComponentGraph.descriptions_pushAll_empty]
  simp [components, Component.describe, Component.fill, Component.extend, Component.bare, slots,
    SortedMap.toList_insert_empty, SortedMap.toList_empty, controller, accelerator, storage, interface]

theorem ProcessingNode.isBlock_components {core : Core} {index : Nat} :
    IsBlock (components settings core index)
      (ComponentGraph.empty.pushAll (components settings core index 0)).descriptions := by
  intro base nameOf named
  rw [ComponentGraph.descriptions_pushAll_empty]
  cases core with
  | program =>
      have core : nameOf ⟨base⟩ = _ := named 0 _ rfl
      have controller : nameOf ⟨base + 1⟩ = _ := named 1 _ rfl
      have interface : nameOf ⟨base + 2⟩ = _ := named 2 _ rfl
      simp [components, coreComponents, Component.describe, Component.fill, Component.extend, Component.bare,
        SortedMap.toList_insert_empty, SortedMap.toList_empty, core, controller, interface]
  | generator workload =>
      have core : nameOf ⟨base⟩ = _ := named 0 _ rfl
      have generator : nameOf ⟨base + 1⟩ = _ := named 1 _ rfl
      simp [components, coreComponents, Component.describe, Component.fill, Component.extend, Component.bare,
        SortedMap.toList_insert_empty, SortedMap.toList_empty, core, generator]

theorem Cluster.isBlock_sharedComponents {cacheNode : Nat} :
    IsBlock (sharedComponents settings cacheNode)
      (ComponentGraph.empty.pushAll (sharedComponents settings cacheNode 0)).descriptions := by
  intro base nameOf named
  have cache : nameOf ⟨base + 1⟩ = _ := named 1 _ rfl
  have memoryLink : nameOf ⟨base + 2⟩ = _ := named 2 _ rfl
  have interface : nameOf ⟨base + 3⟩ = _ := named 3 _ rfl
  have slots (first second : ComponentHandle) :
      (((∅ : SortedMap String ComponentHandle).insert "cpulink" first).insert "memlink" second).toList =
        [("cpulink", first), ("memlink", second)] := SortedMap.toList_insert_insert (by decide)
  rw [ComponentGraph.descriptions_pushAll_empty]
  simp [sharedComponents, Component.describe, Component.fill, Component.extend, Component.bare, slots,
    SortedMap.toList_empty, cache, memoryLink, interface]

theorem Cluster.isBlock_nodeComponentsFrom {core : Core} {count : Nat} :
    IsBlock (fun base => nodeComponentsFrom settings core base 0 count)
      ((List.range count).flatMap fun index =>
        (ComponentGraph.empty.pushAll (ProcessingNode.components settings core index 0)).descriptions) := by
  simp only [nodeComponentsFrom, ← List.range_eq_range']
  exact IsBlock.flatMap_range (fun index => ProcessingNode.isBlock_components)
    (fun index base => ProcessingNode.length_components) count

theorem Cluster.isBlock_componentsFrom {cacheNode : Nat} :
    IsBlock (componentsFrom settings cacheNode)
      (ComponentGraph.empty.pushAll (componentsFrom settings cacheNode 0)).descriptions :=
  (isBlock_nodeComponentsFrom.append isBlock_sharedComponents fun _ => length_nodeComponentsFrom).own

/-- **A part is described in the same way wherever its components begin.** -/
theorem Creation.isBlock (creation : Creation) :
    IsBlock (creation.components settings) (creation.descriptions settings) := by
  cases creation with
  | cluster cacheNode => exact Cluster.isBlock_componentsFrom
  | memoryNode descriptor => exact MemoryNode.isBlock_components

end Blocks

namespace Creation

variable {settings : Settings} {order : List Creation}

/-! ## Names -/

theorem names_components {creation : Creation} {base : Nat} :
    (creation.components settings base).map Component.name =
      (creation.parts settings).map Part.name := by
  cases creation with
  | cluster cacheNode => exact Cluster.names_componentsFrom
  | memoryNode descriptor => exact MemoryNode.names_components

theorem length_components {creation : Creation} {base : Nat} :
    (creation.components settings base).length = (creation.parts settings).length := by
  rw [← List.length_map Component.name, names_components, List.length_map]

/-- The components of parts that are created from the first to the last, where the first component gets the
number `base`. -/
def allComponents (settings : Settings) : List Creation → Nat → List Component
  | [], _ => []
  | creation :: rest, base => creation.components settings base ++
      allComponents settings rest (base + (creation.parts settings).length)

theorem names_allComponents {base : Nat} :
    (allComponents settings order base).map Component.name =
      (order.flatMap (parts settings)).map Part.name := by
  induction order generalizing base with
  | nil => rfl
  | cons creation rest ih =>
      rw [allComponents, List.map_append, names_components, ih, List.flatMap_cons, List.map_append]

theorem isBlock_allComponents :
    IsBlock (allComponents settings order) (order.flatMap (descriptions settings)) := by
  induction order with
  | nil => exact IsBlock.nil
  | cons creation rest ih =>
      rw [List.flatMap_cons]
      exact creation.isBlock.append ih fun _ => length_components

/-- Two creations have no part in common. -/
def IsApart (settings : Settings) (first second : Creation) : Prop :=
  (first.parts settings).Disjoint (second.parts settings)

theorem parts_nodup (creation : Creation) : (creation.parts settings).Nodup := by
  cases creation with
  | cluster cacheNode =>
      refine (@Part.all_nodup (Core.ofSettings settings) settings.compute.processingNodes.toNat 0).sublist ?_
      rw [Part.all, List.append_assoc]
      exact List.sublist_append_left _ _
  | memoryNode descriptor => simp [parts, Part.ofMemoryNode]

/-- **The cluster and the memory nodes have no part in common.** -/
theorem pairwise_isApart {partitioned : Partitioned} (isFor : partitioned.IsFor settings) (cacheNode : Nat) :
    (ofPartitioned partitioned cacheNode).Pairwise (IsApart settings) := by
  refine List.pairwise_cons.2 ⟨fun creation member => ?_, ?_⟩
  · obtain ⟨descriptor, _, rfl⟩ := List.mem_map.1 member
    exact fun part first second => Partitioned.memoryNode_not_mem_cluster second first
  · have distinct : (partitioned.descriptors.map NodeDescriptor.node).Nodup :=
      isFor.numbered ▸ List.nodup_range
    rw [List.pairwise_map]
    refine (List.pairwise_map.1 distinct).imp fun different part first second => ?_
    exact different (Part.eq_of_mem_ofMemoryNode first second)

/-! ## Runs -/

/-- **A part can be created in every open graph in which the names of its parts are free.** -/
theorem yields_build (parent : EntityHandle) (creation : Creation) {graph : ComponentGraph}
    (opened : graph.isFinalized = false) (lacks : graph.Lacks fun part => part ∈ creation.parts settings)
    (sound : settings.IsSound) :
    (creation.build parent settings).Yields (creation.cost settings) graph fun _ after =>
      after = graph.pushAll (creation.components settings graph.components.size) := by
  cases creation with
  | cluster cacheNode =>
      refine (Cluster.yields_createFrom parent cacheNode opened lacks sound.processingNodes
        sound.inside).bind (Nat.le_refl _) ?_
      rintro _ _ ⟨_, rfl⟩
      refine (Build.Yields.pure _ _ _).weaken (Nat.le_refl _) ?_
      rintro _ _ ⟨_, rfl⟩
      rfl
  | memoryNode descriptor =>
      refine (MemoryNode.yields_create parent opened (lacks _ (by simp [parts, Part.ofMemoryNode]))).bind
        (Nat.le_refl _) ?_
      rintro _ _ ⟨_, rfl⟩
      refine (Build.Yields.pure _ _ _).weaken (Nat.le_refl _) ?_
      rintro _ _ ⟨_, rfl⟩
      rfl

/-- **Parts that are apart from each other can be created one behind the other, in any order.** -/
theorem yields_buildAll (parent : EntityHandle) {graph : ComponentGraph}
    (opened : graph.isFinalized = false)
    (lacks : graph.Lacks fun part => part ∈ order.flatMap (parts settings))
    (apart : order.Pairwise (IsApart settings)) (sound : settings.IsSound) :
    (buildAll parent settings order).Yields (order.map (cost settings)).sum graph fun _ after =>
      after = graph.pushAll (allComponents settings order graph.components.size) := by
  induction order generalizing graph with
  | nil =>
      refine (Build.Yields.pure _ _ _).weaken (Nat.le_refl _) ?_
      rintro _ _ ⟨_, rfl⟩
      rfl
  | cons creation rest ih =>
      obtain ⟨first_apart, apart⟩ := List.pairwise_cons.1 apart
      rw [List.flatMap_cons] at lacks
      rw [List.map_cons, List.sum_cons]
      refine (yields_build parent creation opened (lacks.mono fun _ => List.mem_append_left _) sound).bind
        (Nat.le_add_right _ _) ?_
      rintro _ _ rfl
      rw [Nat.add_sub_cancel_left]
      have later : (graph.pushAll (creation.components settings graph.components.size)).Lacks
          fun part => part ∈ rest.flatMap (parts settings) := by
        refine (lacks.mono fun _ => List.mem_append_right _).pushAll names_components
          fun part member earlier => ?_
        obtain ⟨other, listed, member⟩ := List.mem_flatMap.1 member
        exact first_apart other listed earlier member
      refine (ih (by simpa using opened) later apart).weaken (Nat.le_refl _) ?_
      rintro _ _ rfl
      rw [ComponentGraph.pushAll_size, length_components, ← ComponentGraph.pushAll_append]
      rfl

end Creation

/-! ## Orders -/

section Orders

variable {settings : Settings} {partitioned : Partitioned} {cacheNode : Nat} {tracker : Tracker}
  {order : List Creation}

/-- The number of the entities of the cluster and the memory nodes, with the two of a graph. -/
def creationRoom (settings : Settings) : Nat :=
  2 + (Cluster.entityCount settings + settings.memory.nodes.toNat * 5)

theorem sum_cost_ofPartitioned (isFor : partitioned.IsFor settings) :
    ((Creation.ofPartitioned partitioned cacheNode).map (Creation.cost settings)).sum =
      Cluster.entityCount settings + settings.memory.nodes.toNat * 5 := by
  rw [Creation.ofPartitioned, List.map_cons, List.sum_cons, List.map_map, ← isFor.length_descriptors]
  simp [Function.comp_def, Creation.cost]

theorem creationRoom_of_isFresh (isFor : partitioned.IsFor settings) (fresh : tracker.IsFresh) :
    tracker.HasRoom (creationRoom settings) := by
  refine fresh.hasRoom ?_
  have fits := Topology.entityCount_lt isFor
  rw [Topology.entityCount] at fits
  rw [creationRoom]
  omega

/-- **Every order succeeds.** -/
theorem createFresh_of_perm (isFor : partitioned.IsFor settings) (parent : EntityHandle)
    (perm : order.Perm (Creation.ofPartitioned partitioned cacheNode))
    (room : tracker.HasRoom (creationRoom settings)) :
    ∃ recorder, createFresh tracker parent settings order = .ok (.ok (), recorder) ∧
      recorder.graph = ComponentGraph.empty.pushAll (Creation.allComponents settings order 0) := by
  have apart : order.Pairwise (Creation.IsApart settings) :=
    (perm.pairwise_iff fun apart => List.disjoint_symm apart).2
      (Creation.pairwise_isApart isFor cacheNode)
  have cost : (order.map (Creation.cost settings)).sum =
      Cluster.entityCount settings + settings.memory.nodes.toNat * 5 :=
    (perm.map _).sum_nat.trans (sum_cost_ofPartitioned isFor)
  rcases Recorder.start_cases tracker with ⟨started, started_eq, empty, left⟩ | ⟨full, _⟩
  · rcases Creation.yields_buildAll parent rfl (fun _ _ => rfl) apart isFor.sound started empty with
      ⟨_, recorder, ran, grown, _⟩ | ⟨full, _⟩
    · refine ⟨recorder, ?_, grown⟩
      rw [createFresh, started_eq]
      exact congrArg Except.ok ran
    · exact absurd (left _ (cost ▸ room)) full
  · exact absurd (room.mono (Nat.le_add_right _ _)) full

theorem names_nodup_of_perm (isFor : partitioned.IsFor settings)
    (perm : order.Perm (Creation.ofPartitioned partitioned cacheNode)) :
    ((Creation.allComponents settings order 0).map Component.name).Nodup := by
  have distinct : (order.flatMap (Creation.parts settings)).Nodup := by
    rw [(perm.flatMap_right _).nodup_iff, List.nodup_flatMap]
    exact ⟨fun creation _ => creation.parts_nodup, Creation.pairwise_isApart isFor cacheNode⟩
  rw [Creation.names_allComponents]
  exact distinct.map Part.name_injective

/-- **The cluster and the memory nodes of a partition can be created in any order.**  Every order succeeds
under a tracker with identifiers enough, the names of the components identify them, and any two orders give
graphs that are the same by name. -/
theorem createFresh_sameByName (made : Partitioned.ofSettings settings = .ok partitioned)
    {first second : List Creation}
    (first_perm : first.Perm (Creation.ofPartitioned partitioned cacheNode))
    (second_perm : second.Perm (Creation.ofPartitioned partitioned cacheNode))
    {firstTracker secondTracker : Tracker}
    (first_room : firstTracker.IsFresh ∨ firstTracker.HasRoom (creationRoom settings))
    (second_room : secondTracker.IsFresh ∨ secondTracker.HasRoom (creationRoom settings))
    (firstParent secondParent : EntityHandle) :
    ∃ firstRecorder secondRecorder,
      createFresh firstTracker firstParent settings first = .ok (.ok (), firstRecorder) ∧
        createFresh secondTracker secondParent settings second = .ok (.ok (), secondRecorder) ∧
          firstRecorder.graph.NamesIdentify ∧ secondRecorder.graph.NamesIdentify ∧
            firstRecorder.graph.SameByName secondRecorder.graph := by
  have isFor := Partitioned.isFor_of_ofSettings made
  have enough {tracker : Tracker} (room : tracker.IsFresh ∨ tracker.HasRoom (creationRoom settings)) :
      tracker.HasRoom (creationRoom settings) := room.elim (creationRoom_of_isFresh isFor) id
  obtain ⟨firstRecorder, first_ran, first_graph⟩ :=
    createFresh_of_perm isFor firstParent first_perm (enough first_room)
  obtain ⟨secondRecorder, second_ran, second_graph⟩ :=
    createFresh_of_perm isFor secondParent second_perm (enough second_room)
  have indexed (order : List Creation) :
      (ComponentGraph.empty.pushAll (Creation.allComponents settings order 0)).NamesIndexed :=
    ComponentGraph.namesIndexed_empty.pushAll _
  have distinct {order : List Creation} (perm : order.Perm (Creation.ofPartitioned partitioned cacheNode)) :
      (ComponentGraph.empty.pushAll (Creation.allComponents settings order 0)).names.Nodup := by
    rw [ComponentGraph.names_pushAll]
    exact names_nodup_of_perm isFor perm
  refine ⟨firstRecorder, secondRecorder, first_ran, second_ran, ?_⟩
  rw [first_graph, second_graph]
  refine ⟨(indexed first).namesIdentify (distinct first_perm),
    (indexed second).namesIdentify (distinct second_perm),
    ComponentGraph.sameByName_of_perm (indexed first) (indexed second) (distinct first_perm) ?_ ?_ ?_ ?_⟩
  · rw [Creation.isBlock_allComponents.descriptions_pushAll,
      Creation.isBlock_allComponents.descriptions_pushAll]
    exact (first_perm.trans second_perm.symm).flatMap_right _
  · rw [ComponentGraph.pushAll_links, ComponentGraph.pushAll_links]
  · rw [ComponentGraph.pushAll_eq, ComponentGraph.pushAll_eq]
  · rw [ComponentGraph.pushAll_isFinalized, ComponentGraph.pushAll_isFinalized]

/-- Two memory nodes before the cluster, and behind it in the other order. -/
theorem createFresh_two_memoryNodes :
    ∃ partitioned first second,
      Partitioned.ofSettings { memory := { nodes := 2 } } = .ok partitioned ∧
        partitioned.descriptors = [first, second] ∧ Tracker.silent.IsFresh ∧
          ∃ firstRecorder secondRecorder,
            createFresh .silent ⟨0⟩ { memory := { nodes := 2 } }
                [.memoryNode first, .memoryNode second, .cluster 0] = .ok (.ok (), firstRecorder) ∧
              createFresh .silent ⟨0⟩ { memory := { nodes := 2 } }
                  [.cluster 0, .memoryNode second, .memoryNode first] = .ok (.ok (), secondRecorder) ∧
                firstRecorder.graph.NamesIdentify ∧ secondRecorder.graph.NamesIdentify ∧
                  firstRecorder.graph.SameByName secondRecorder.graph := by
  obtain ⟨partitioned, first, second, made, listed⟩ : ∃ partitioned first second,
      Partitioned.ofSettings { memory := { nodes := 2 } } = .ok partitioned ∧
        partitioned.descriptors = [first, second] := ⟨_, _, _, rfl, rfl⟩
  have first_perm : [Creation.memoryNode first, .memoryNode second, .cluster 0].Perm
      (Creation.ofPartitioned partitioned 0) := by
    rw [Creation.ofPartitioned, listed]
    exact @List.perm_append_comm Creation [.memoryNode first, .memoryNode second] [.cluster 0]
  have second_perm : [Creation.cluster 0, .memoryNode second, .memoryNode first].Perm
      (Creation.ofPartitioned partitioned 0) := by
    rw [Creation.ofPartitioned, listed]
    exact (List.Perm.swap _ _ _).cons _
  exact ⟨partitioned, first, second, made, listed, .silent,
    createFresh_sameByName made first_perm second_perm (.inl .silent) (.inl .silent) ⟨0⟩ ⟨0⟩⟩

/-- Whether the creation of parts has stopped with an overflow. -/
def hasOverflowed : Except Fault (Built Unit × Recorder) → Bool
  | .ok (.error (.fault .overflow), _) => true
  | _ => false

theorem exists_of_hasOverflowed {outcome : Except Fault (Built Unit × Recorder)}
    (stopped : hasOverflowed outcome = true) :
    ∃ recorder, outcome = .ok (.error (.fault .overflow), recorder) := by
  rw [hasOverflowed.eq_def] at stopped
  split at stopped
  · exact ⟨_, rfl⟩
  · cases stopped

/-- A collecting tracker whose identifiers run out with the graph: already the first part faults. -/
theorem createFresh_out_of_identifiers :
    ∃ partitioned, Partitioned.ofSettings {} = .ok partitioned ∧ ∃ recorder,
      createFresh (.collecting 18446744073709551613 #[]) ⟨0⟩ {} (Creation.ofPartitioned partitioned 0) =
        .ok (.error (.fault .overflow), recorder) := by
  have stopped : (Partitioned.ofSettings {}).toOption.all (fun partitioned =>
      hasOverflowed (createFresh (.collecting 18446744073709551613 #[]) ⟨0⟩ {}
        (Creation.ofPartitioned partitioned 0))) = true := by
    decide +kernel
  obtain ⟨partitioned, made⟩ : ∃ partitioned, Partitioned.ofSettings {} = .ok partitioned := ⟨_, rfl⟩
  rw [made] at stopped
  exact ⟨partitioned, made, exists_of_hasOverflowed stopped⟩

end Orders

end MemoryFabric

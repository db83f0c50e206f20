import MemoryFabric.Host.Graph
import MemoryFabric.Proofs.SortedMap
import Mathlib.Data.List.Basic

/-!
# Graphs that grow

A build only ever appends: components behind the components, links behind the links.  What a sequence of
calls makes of a graph is therefore told by the components that it appends (`pushAll`) and by the links
that it makes and connects (`joinAll`).  A change of an appended component is a change in the list
(`modify_pushAll`), and the two ways to grow do not meet (`pushAll_joinAll`).
-/

namespace MemoryFabric

set_option autoImplicit false

/-! ## Numbered entries -/

/-- Names with the numbers of what they name. -/
def numbered {κ η : Type} (wrap : Nat → η) (start : Nat) (keys : List κ) : List (κ × η) :=
  (keys.zipIdx start).map fun entry => (entry.1, wrap entry.2)

section Numbered

variable {κ η : Type} {wrap : Nat → η} {start : Nat} {keys : List κ}

@[simp]
theorem numbered_keys : (numbered wrap start keys).map Prod.fst = keys := by
  rw [numbered, List.map_map]
  exact List.zipIdx_map_fst start keys

theorem mem_numbered_iff {key : κ} {value : η} :
    (key, value) ∈ numbered wrap start keys ↔
      ∃ position : Nat, keys[position]? = some key ∧ wrap (start + position) = value := by
  constructor
  · intro member
    obtain ⟨⟨_, number⟩, listed, same⟩ := List.mem_map.1 member
    cases same
    obtain ⟨behind, found⟩ := List.mk_mem_zipIdx_iff_le_and_getElem?_sub.1 listed
    exact ⟨number - start, found, by rw [Nat.add_sub_cancel' behind]⟩
  · rintro ⟨position, found, rfl⟩
    exact List.mem_map.2 ⟨(key, start + position), List.mk_add_mem_zipIdx_iff_getElem?.2 found, rfl⟩

theorem mem_numbered {position : Nat} {key : κ} (found : keys[position]? = some key) :
    (key, wrap (start + position)) ∈ numbered wrap start keys :=
  mem_numbered_iff.2 ⟨position, found, rfl⟩

theorem numbered_append {later : List κ} :
    numbered wrap start (keys ++ later) =
      numbered wrap start keys ++ numbered wrap (start + keys.length) later := by
  rw [numbered, List.zipIdx_append, List.map_append]
  rfl

end Numbered

/-! ## Changed elements -/

theorem modify_append {α : Type} {first second : List α} {position : Nat} {change : α → α} :
    (first ++ second).modify (first.length + position) change =
      first ++ second.modify position change := by
  induction first with
  | nil => simp
  | cons head tail ih =>
      rw [List.cons_append, List.length_cons, Nat.add_right_comm, List.modify_succ_cons, ih,
        List.cons_append]

theorem modify_append_of_lt {α : Type} {first second : List α} {position : Nat} {change : α → α}
    (inside : position < first.length) :
    (first ++ second).modify position change = first.modify position change ++ second := by
  induction first generalizing position with
  | nil => cases inside
  | cons head tail ih =>
      cases position with
      | zero => rfl
      | succ position =>
          rw [List.cons_append, List.modify_succ_cons, List.modify_succ_cons,
            ih (Nat.lt_of_succ_lt_succ inside), List.cons_append]

/-- A change that no view of the elements shows does not show in the list. -/
theorem map_modify {α β : Type} {view : α → β} {change : α → α}
    (kept : ∀ element, view (change element) = view element) {list : List α} {position : Nat} :
    (list.modify position change).map view = list.map view := by
  refine List.ext_getElem? fun other => ?_
  simp only [List.getElem?_map, List.getElem?_modify]
  cases list[other]? with
  | none => rfl
  | some element =>
      simp only [Option.map_some]
      split <;> simp [kept]

namespace ComponentGraph

variable {graph : ComponentGraph}

/-! ## One component -/

/-- Append a component. -/
def push (graph : ComponentGraph) (component : Component) : ComponentGraph :=
  { graph with
    components := graph.components.push component
    componentByName := graph.componentByName.insert component.name graph.nextHandle }

theorem component?_nextHandle : graph.component? graph.nextHandle = none :=
  Array.getElem?_size

theorem component?_push {component : Component} {handle : ComponentHandle} :
    (graph.push component).component? handle =
      if handle = graph.nextHandle then some component else graph.component? handle := by
  obtain ⟨index⟩ := handle
  simp [component?, push, nextHandle, Array.getElem?_push]

theorem component?_modify {handle other : ComponentHandle} {change : Component → Component} :
    (graph.modify handle change).component? other =
      if handle = other then (graph.component? other).map change else graph.component? other := by
  obtain ⟨index⟩ := handle
  obtain ⟨position⟩ := other
  simp [component?, modify, Array.getElem?_modify]

/-! ## Appended components -/

/-- Append components, from the first to the last. -/
def pushAll (graph : ComponentGraph) (components : List Component) : ComponentGraph :=
  components.foldl push graph

theorem pushAll_append {first second : List Component} :
    graph.pushAll (first ++ second) = (graph.pushAll first).pushAll second :=
  List.foldl_append

/-- What appending components makes of a graph. -/
theorem pushAll_eq {components : List Component} :
    graph.pushAll components =
      { graph with
        components := graph.components ++ components.toArray
        componentByName :=
          graph.componentByName.insertAll
            (numbered ComponentHandle.mk graph.components.size (components.map Component.name)) } := by
  induction components generalizing graph with
  | nil => simp [pushAll, numbered, SortedMap.insertAll]
  | cons first rest ih =>
      have step : graph.pushAll (first :: rest) = (graph.push first).pushAll rest := rfl
      rw [step, ih]
      simp [push, numbered, nextHandle, SortedMap.insertAll]

@[simp]
theorem pushAll_links {components : List Component} : (graph.pushAll components).links = graph.links := by
  rw [pushAll_eq]

@[simp]
theorem pushAll_linkByName {components : List Component} :
    (graph.pushAll components).linkByName = graph.linkByName := by
  rw [pushAll_eq]

@[simp]
theorem pushAll_linkByPort {components : List Component} :
    (graph.pushAll components).linkByPort = graph.linkByPort := by
  rw [pushAll_eq]

@[simp]
theorem pushAll_isFinalized {components : List Component} :
    (graph.pushAll components).isFinalized = graph.isFinalized := by
  rw [pushAll_eq]

@[simp]
theorem pushAll_size {components : List Component} :
    (graph.pushAll components).components.size = graph.components.size + components.length := by
  rw [pushAll_eq]
  simp

theorem contains_pushAll {components : List Component} {name : String} :
    (graph.pushAll components).componentByName.contains name =
      (decide (name ∈ components.map Component.name) || graph.componentByName.contains name) := by
  rw [pushAll_eq, SortedMap.contains_insertAll, numbered_keys]

/-- A component that has been appended. -/
theorem component?_pushAll {components : List Component} {position : Nat} :
    (graph.pushAll components).component? ⟨graph.components.size + position⟩ =
      components[position]? := by
  rw [pushAll_eq, component?, Array.getElem?_append_right (Nat.le_add_right _ _)]
  simp

/-- Among distinct names every appended component is found. -/
theorem find?_pushAll {components : List Component} {position : Nat} {component : Component}
    (distinct : (components.map Component.name).Nodup)
    (found : components[position]? = some component) :
    (graph.pushAll components).find? component.name =
      some ⟨graph.components.size + position⟩ := by
  rw [pushAll_eq, find?]
  refine SortedMap.get?_insertAll_of_mem ?_ (mem_numbered ?_)
  · rw [numbered_keys]
    exact distinct
  · rw [List.getElem?_map, found]
    rfl

/-- In a graph of appended components a handle is a position. -/
theorem component?_pushAll_empty {components : List Component} {handle : ComponentHandle} :
    (empty.pushAll components).component? handle = components[handle.index]? := by
  have placed := @component?_pushAll empty components handle.index
  rwa [show empty.components.size = 0 from rfl, Nat.zero_add] at placed

theorem find?_pushAll_empty {components : List Component} {handle : ComponentHandle}
    {component : Component} (distinct : (components.map Component.name).Nodup)
    (found : components[handle.index]? = some component) :
    (empty.pushAll components).find? component.name = some handle := by
  have placed := @find?_pushAll empty _ _ _ distinct found
  rwa [show empty.components.size = 0 from rfl, Nat.zero_add] at placed

/-- **A change of an appended component is a change in the list.** -/
theorem modify_pushAll {components : List Component} {position : Nat}
    {change : Component → Component} (named : ∀ component, (change component).name = component.name) :
    (graph.pushAll components).modify ⟨graph.components.size + position⟩ change =
      graph.pushAll (components.modify position change) := by
  have names : (components.modify position change).map Component.name =
      components.map Component.name := map_modify named
  have changed : (graph.components ++ components.toArray).modify
      (graph.components.size + position) change =
        graph.components ++ (components.modify position change).toArray := by
    refine Array.ext' ?_
    rw [Array.toList_modify, Array.toList_append, Array.toList_append]
    exact modify_append
  rw [pushAll_eq, pushAll_eq, names, modify, changed]

end ComponentGraph

/-! ## Connected links -/

/-- A link with its ends. -/
structure Joint where
  name : String
  a : LinkEnd
  b : LinkEnd
  deriving DecidableEq, Repr

namespace Joint

/-- The link in a graph. -/
def link (joint : Joint) : Link := ⟨joint.name, some (joint.a, joint.b)⟩

/-- Both ports of the link. -/
def ports (joint : Joint) : List ComponentPort := [joint.a.componentPort, joint.b.componentPort]

/-- The ports of links with the numbers of the links. -/
def numberedPorts (start : Nat) (joints : List Joint) : List (ComponentPort × LinkHandle) :=
  (joints.zipIdx start).flatMap fun entry => entry.1.ports.map fun port => (port, ⟨entry.2⟩)

theorem numberedPorts_keys {start : Nat} {joints : List Joint} :
    (numberedPorts start joints).map Prod.fst = joints.flatMap ports := by
  induction joints generalizing start with
  | nil => rfl
  | cons joint rest ih =>
      rw [numberedPorts, List.zipIdx_cons, List.flatMap_cons, List.map_append, List.flatMap_cons]
      exact congrArg (joint.ports ++ ·) ih

theorem mem_numberedPorts {start position : Nat} {joints : List Joint} {joint : Joint}
    (found : joints[position]? = some joint) {port : ComponentPort} (member : port ∈ joint.ports) :
    (port, ⟨start + position⟩) ∈ numberedPorts start joints := by
  exact List.mem_flatMap.2 ⟨(joint, start + position), List.mk_add_mem_zipIdx_iff_getElem?.2 found,
    List.mem_map.2 ⟨port, member, rfl⟩⟩

end Joint

namespace ComponentGraph

variable {graph : ComponentGraph}

/-- Append a connected link. -/
def join (graph : ComponentGraph) (joint : Joint) : ComponentGraph :=
  { graph with
    links := graph.links.push joint.link
    linkByName := graph.linkByName.insert joint.name ⟨graph.links.size⟩
    linkByPort :=
      (graph.linkByPort.insert joint.a.componentPort ⟨graph.links.size⟩).insert
        joint.b.componentPort ⟨graph.links.size⟩ }

/-- Append connected links, from the first to the last. -/
def joinAll (graph : ComponentGraph) (joints : List Joint) : ComponentGraph :=
  joints.foldl join graph

theorem joinAll_append {first second : List Joint} :
    graph.joinAll (first ++ second) = (graph.joinAll first).joinAll second :=
  List.foldl_append

/-- What appending connected links makes of a graph. -/
theorem joinAll_eq {joints : List Joint} :
    graph.joinAll joints =
      { graph with
        links := graph.links ++ (joints.map Joint.link).toArray
        linkByName :=
          graph.linkByName.insertAll (numbered LinkHandle.mk graph.links.size (joints.map Joint.name))
        linkByPort :=
          graph.linkByPort.insertAll (Joint.numberedPorts graph.links.size joints) } := by
  induction joints generalizing graph with
  | nil => simp [joinAll, numbered, Joint.numberedPorts, SortedMap.insertAll]
  | cons first rest ih =>
      have step : graph.joinAll (first :: rest) = (graph.join first).joinAll rest := rfl
      rw [step, ih]
      simp [join, numbered, Joint.numberedPorts, Joint.ports, SortedMap.insertAll]

@[simp]
theorem joinAll_components {joints : List Joint} :
    (graph.joinAll joints).components = graph.components := by
  rw [joinAll_eq]

@[simp]
theorem joinAll_componentByName {joints : List Joint} :
    (graph.joinAll joints).componentByName = graph.componentByName := by
  rw [joinAll_eq]

@[simp]
theorem joinAll_isFinalized {joints : List Joint} :
    (graph.joinAll joints).isFinalized = graph.isFinalized := by
  rw [joinAll_eq]

theorem joinAll_links {joints : List Joint} :
    (graph.joinAll joints).links = graph.links ++ (joints.map Joint.link).toArray := by
  rw [joinAll_eq]

theorem contains_link_joinAll {joints : List Joint} {name : String} :
    (graph.joinAll joints).linkByName.contains name =
      (decide (name ∈ joints.map Joint.name) || graph.linkByName.contains name) := by
  rw [joinAll_eq, SortedMap.contains_insertAll, numbered_keys]

theorem contains_port_joinAll {joints : List Joint} {port : ComponentPort} :
    (graph.joinAll joints).linkByPort.contains port =
      (decide (port ∈ joints.flatMap Joint.ports) || graph.linkByPort.contains port) := by
  rw [joinAll_eq, SortedMap.contains_insertAll, Joint.numberedPorts_keys]

/-- Among distinct ports every port of an appended link leads to the link. -/
theorem get?_port_joinAll {joints : List Joint} {position : Nat} {joint : Joint}
    (distinct : (joints.flatMap Joint.ports).Nodup) (found : joints[position]? = some joint)
    {port : ComponentPort} (member : port ∈ joint.ports) :
    (graph.joinAll joints).linkByPort.get? port = some ⟨graph.links.size + position⟩ := by
  rw [joinAll_eq]
  refine SortedMap.get?_insertAll_of_mem ?_ (Joint.mem_numberedPorts found member)
  rw [Joint.numberedPorts_keys]
  exact distinct

/-- An appended link is at its position. -/
theorem getElem?_links_joinAll {joints : List Joint} {position : Nat} {joint : Joint}
    (found : joints[position]? = some joint) :
    (graph.joinAll joints).links[graph.links.size + position]? = some joint.link := by
  rw [joinAll_links, Array.getElem?_append_right (Nat.le_add_right _ _)]
  simp [found]

/-- Among distinct names every appended link is found. -/
theorem link?_joinAll {joints : List Joint} {position : Nat} {joint : Joint}
    (distinct : (joints.map Joint.name).Nodup) (found : joints[position]? = some joint) :
    (graph.joinAll joints).link? joint.name = some joint.link := by
  have named : (joints.map Joint.name)[position]? = some joint.name := by
    rw [List.getElem?_map, found]
    rfl
  have handle : (graph.joinAll joints).linkByName.get? joint.name =
      some ⟨graph.links.size + position⟩ := by
    rw [joinAll_eq]
    refine SortedMap.get?_insertAll_of_mem ?_ (mem_numbered named)
    rw [numbered_keys]
    exact distinct
  simp only [link?, handle, Option.bind_eq_bind, Option.bind_some, getElem?_links_joinAll found]

/-- Among distinct ports every appended link is found at both its ends. -/
theorem linkAt?_joinAll {joints : List Joint} {position : Nat} {joint : Joint}
    (distinct : (joints.flatMap Joint.ports).Nodup) (found : joints[position]? = some joint)
    {port : ComponentPort} (member : port ∈ joint.ports) :
    (graph.joinAll joints).linkAt? port = some joint.name := by
  simp only [linkAt?, get?_port_joinAll distinct found member, Option.bind_eq_bind, Option.bind_some,
    getElem?_links_joinAll found]
  rfl

/-- Components and links grow apart from each other. -/
theorem pushAll_joinAll {components : List Component} {joints : List Joint} :
    (graph.joinAll joints).pushAll components = (graph.pushAll components).joinAll joints := by
  rw [pushAll_eq, pushAll_eq, joinAll_eq, joinAll_eq]

end ComponentGraph

end MemoryFabric

import MemoryFabric.Proofs.Attempt
import MemoryFabric.Proofs.Host.Answers

/-!
# Calls on graphs that grow

What the calls of a build are answered with when nothing speaks against them.  A call that creates or
changes components is described on a graph with appended components; a new link that is connected at once
is described by `join`.
-/

namespace MemoryFabric.ComponentGraph

set_option autoImplicit false

variable {graph : ComponentGraph}

theorem checkOpen_of_open (opened : graph.isFinalized = false) (call : HostCall) :
    graph.checkOpen call = .ok () := by
  rw [checkOpen, opened]
  rfl

theorem isEmpty_of_ne {text : String} (named : text ≠ "") : text.isEmpty = false := by
  simpa [String.isEmpty_iff] using named

/-! ## Components -/

section Components

variable {components : List Component} {owner : Component} {kind : String}

theorem component_pushAll {position : Nat} (found : components[position]? = some owner) :
    (graph.pushAll components).component ⟨graph.components.size + position⟩ = .ok owner := by
  rw [component, component?_pushAll, found]

theorem createComponent_pushAll {name : String} (opened : graph.isFinalized = false)
    (kinded : kind ≠ "") (named : name ≠ "") (fresh : name ∉ components.map Component.name)
    (unknown : graph.componentByName.contains name = false) :
    (graph.pushAll components).createComponent kind name =
      .ok (⟨graph.components.size + components.length⟩,
        graph.pushAll (components ++ [.bare name kind none])) := by
  have absent : (graph.pushAll components).componentByName.contains name = false := by
    rw [contains_pushAll, unknown, decide_eq_false fresh]
    rfl
  have opened' : (graph.pushAll components).isFinalized = false := by
    rw [pushAll_isFinalized, opened]
  rw [createComponent, checkOpen_of_open opened', isEmpty_of_ne kinded, isEmpty_of_ne named, absent,
    nextHandle, pushAll_size, pushAll_append]
  rfl

theorem attachSubcomponent_pushAll (position : Nat) {slot : String} (opened : graph.isFinalized = false)
    (kinded : kind ≠ "") (slotted : slot ≠ "") (found : components[position]? = some owner)
    (free : owner.slots.contains slot = false) :
    (graph.pushAll components).attachSubcomponent ⟨graph.components.size + position⟩ slot kind =
      .ok (⟨graph.components.size + components.length⟩,
        graph.pushAll
          (components.modify position
              (fun owner => owner.fill slot ⟨graph.components.size + components.length⟩) ++
            [Component.bare (owner.name ++ "." ++ slot) kind
              (some (⟨graph.components.size + position⟩, slot))])) := by
  have opened' : (graph.pushAll components).isFinalized = false := by
    rw [pushAll_isFinalized, opened]
  have inside : position < components.length := (List.getElem?_eq_some_iff.1 found).1
  rw [← modify_append_of_lt inside, ← modify_pushAll (by intro component; rfl), pushAll_append]
  rw [attachSubcomponent, checkOpen_of_open opened', isEmpty_of_ne kinded, isEmpty_of_ne slotted,
    component_pushAll found, nextHandle, pushAll_size]
  simp only [Attempt.ok_bind, free]
  rfl

theorem setParameters_pushAll (position : Nat) {parameters : Parameters} (opened : graph.isFinalized = false)
    (found : components[position]? = some owner) :
    (graph.pushAll components).setParameters ⟨graph.components.size + position⟩ parameters =
      .ok (graph.pushAll (components.modify position fun component =>
        component.extend parameters)) := by
  have opened' : (graph.pushAll components).isFinalized = false := by
    rw [pushAll_isFinalized, opened]
  rw [← modify_pushAll (by intro component; rfl), setParameters, checkOpen_of_open opened',
    component_pushAll found]
  rfl

end Components

/-! ## Links -/

section Links

variable {name : String} {a b : LinkEnd}

/-- The graph with a new link without ends. -/
def withOpenLink (graph : ComponentGraph) (name : String) : ComponentGraph :=
  { graph with
    links := graph.links.push ⟨name, none⟩
    linkByName := graph.linkByName.insert name ⟨graph.links.size⟩ }

theorem createLink_of_fresh (opened : graph.isFinalized = false)
    (fresh : graph.linkByName.contains name = false) :
    graph.createLink name = .ok (⟨graph.links.size⟩, graph.withOpenLink name) := by
  rw [createLink, checkOpen_of_open opened, fresh]
  rfl

theorem checkFree_of_not_contains {linkEnd : LinkEnd}
    (free : graph.linkByPort.contains linkEnd.componentPort = false) :
    graph.checkFree linkEnd = .ok () := by
  have absent : graph.linkByPort.get? linkEnd.componentPort = none := by
    simpa [SortedMap.contains] using free
  rw [checkFree, linkAt?, absent]
  rfl

/-- A new link can be connected to any two ports that have none. -/
theorem connect_withOpenLink (opened : graph.isFinalized = false) {first second : Component}
    (first_found : graph.component? a.component = some first)
    (second_found : graph.component? b.component = some second)
    (different : a.componentPort ≠ b.componentPort)
    (a_free : graph.linkByPort.contains a.componentPort = false)
    (b_free : graph.linkByPort.contains b.componentPort = false) :
    (graph.withOpenLink name).connect ⟨graph.links.size⟩ a b = .ok (name, graph.join ⟨name, a, b⟩) := by
  have openLink : (graph.withOpenLink name).openLink ⟨graph.links.size⟩ = .ok ⟨name, none⟩ := by
    simp [ComponentGraph.openLink, withOpenLink]
  have a_component : (graph.withOpenLink name).component a.component = .ok first := by
    have found : (graph.withOpenLink name).component? a.component = some first := first_found
    rw [component, found]
  have b_component : (graph.withOpenLink name).component b.component = .ok second := by
    have found : (graph.withOpenLink name).component? b.component = some second := second_found
    rw [component, found]
  have opened' : (graph.withOpenLink name).isFinalized = false := opened
  rw [connect, checkOpen_of_open opened', openLink, a_component, b_component]
  simp only [Attempt.ok_bind, if_neg different]
  rw [@checkFree_of_not_contains (graph.withOpenLink name) a a_free,
    @checkFree_of_not_contains (graph.withOpenLink name) b b_free]
  have last : (graph.links.push ⟨name, none⟩).modify graph.links.size
      (fun link => { link with ends := some (a, b) }) = graph.links.push ⟨name, some (a, b)⟩ := by
    refine Array.ext' ?_
    rw [Array.toList_modify, Array.toList_push, Array.toList_push]
    exact @modify_append Link graph.links.toList [⟨name, none⟩] 0 _
  simp only [withOpenLink, last]
  rfl

end Links

/-! ## The end -/

/-- A graph whose links are all connected can be finalized. -/
theorem finalize_of_connected (opened : graph.isFinalized = false)
    (connected : ∀ link ∈ graph.links, link.ends.isSome = true) :
    graph.finalize = .ok { graph with isFinalized := true } := by
  have none_open : (graph.links.find? fun link => link.ends.isNone) = none := by
    simpa [Option.isSome_iff_ne_none] using connected
  rw [finalize, checkOpen_of_open opened, checkConnected, none_open]
  rfl

end MemoryFabric.ComponentGraph

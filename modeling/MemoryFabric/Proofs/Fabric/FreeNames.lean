import MemoryFabric.Proofs.Fabric.Part
import MemoryFabric.Proofs.Host.Growth

/-!
# Free names

A component can be created when no other has its name.  Parts have different names, so the names of the parts
that are still to come stay free while others are created.
-/

namespace MemoryFabric

set_option autoImplicit false

theorem Part.name_not_mem {part : Part} {parts : List Part} (absent : part ∉ parts) :
    part.name ∉ parts.map Part.name := by
  rw [List.mem_map_of_injective Part.name_injective]
  exact absent

/-- No component has the name of one of these parts. -/
def ComponentGraph.Lacks (graph : ComponentGraph) (parts : Part → Prop) : Prop :=
  ∀ part, parts part → graph.componentByName.contains part.name = false

theorem ComponentGraph.Lacks.pushAll {graph : ComponentGraph} {wanted : Part → Prop}
    (lacks : graph.Lacks wanted) {components : List Component} {parts : List Part}
    (names : components.map Component.name = parts.map Part.name)
    (absent : ∀ part, wanted part → part ∉ parts) : (graph.pushAll components).Lacks wanted := by
  intro part want
  rw [ComponentGraph.contains_pushAll, names, lacks part want,
    decide_eq_false (Part.name_not_mem (absent part want))]
  rfl

theorem ComponentGraph.Lacks.mono {graph : ComponentGraph} {more fewer : Part → Prop}
    (lacks : graph.Lacks more) (implies : ∀ part, fewer part → more part) : graph.Lacks fewer :=
  fun part want => lacks part (implies part want)

/-- The parts of the items behind one stay free when those of this one are created. -/
theorem ComponentGraph.Lacks.next {graph : ComponentGraph} {family : Nat → List Part} {start : Nat}
    (lacks : graph.Lacks fun part => ∃ index, start ≤ index ∧ part ∈ family index)
    (separate : ∀ {part : Part} {first second : Nat}, part ∈ family first → part ∈ family second →
      first = second)
    {components : List Component}
    (names : components.map Component.name = (family start).map Part.name) :
    (graph.pushAll components).Lacks fun part => ∃ index, start + 1 ≤ index ∧ part ∈ family index := by
  refine (lacks.mono ?_).pushAll names ?_
  · rintro part ⟨index, behind, member⟩
    exact ⟨index, by omega, member⟩
  · rintro part ⟨index, behind, member⟩ earlier
    have same := separate member earlier
    omega

end MemoryFabric

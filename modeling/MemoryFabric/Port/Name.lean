/-!
# Port names

A port is named by its component and by its own name there.  Ports are ordered by component, then by
port, both by code points; messages about several ports follow this order.
-/

namespace MemoryFabric

set_option autoImplicit false

/-- A named port of a named component. -/
structure PortId where
  component : String
  port : String
  deriving DecidableEq, Repr

namespace PortId

/-- The port as messages write it. -/
def text (id : PortId) : String := id.component ++ "." ++ id.port

/-- Components first, then ports. -/
instance : Ord PortId where
  compare := compareLex (compareOn component) (compareOn port)

instance : Std.TransOrd PortId :=
  inferInstanceAs (Std.TransCmp (compareLex (compareOn component) (compareOn port)))

instance : Std.LawfulEqOrd PortId where
  eq_of_compare {a b} h := by
    obtain ⟨components, ports⟩ := Ordering.then_eq_eq.1 h
    cases a
    cases b
    congr
    · exact Std.LawfulEqCmp.eq_of_compare components
    · exact Std.LawfulEqCmp.eq_of_compare ports

end PortId

end MemoryFabric

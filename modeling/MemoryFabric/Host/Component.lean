import MemoryFabric.Host.Latency
import MemoryFabric.Host.Parameter

/-!
# Components and links

What a simulation host knows about a fabric: components with their parameters, subcomponents in the slots
of other components, and links between ports of components.  Components and links are numbered in the order
in which they are created.
-/

namespace MemoryFabric

set_option autoImplicit false

/-! ## Components -/

/-- The number of a component in the order of creation. -/
structure ComponentHandle where
  index : Nat
  deriving DecidableEq, Repr, Inhabited

/-- The handle in messages. -/
def ComponentHandle.text (handle : ComponentHandle) : String := s!"#{handle.index}"

/-- A component. -/
structure Component where
  /-- The full name; a subcomponent is named after its parent and its slot. -/
  name : String
  kind : String
  /-- The component and the slot that a subcomponent is in. -/
  parent : Option (ComponentHandle × String)
  parameters : Parameters
  slots : SortedMap String ComponentHandle
  deriving DecidableEq

namespace Component

/-- A component with nothing set and nothing in its slots. -/
def bare (name kind : String) (parent : Option (ComponentHandle × String)) : Component :=
  ⟨name, kind, parent, ∅, ∅⟩

/-- Set parameters; a later value replaces an earlier one. -/
def extend (component : Component) (parameters : Parameters) : Component :=
  { component with parameters := component.parameters.extend parameters }

/-- Fill a slot. -/
def fill (component : Component) (slot : String) (handle : ComponentHandle) : Component :=
  { component with slots := component.slots.insert slot handle }

end Component

/-! ## Ports -/

/-- A port of a component. -/
structure ComponentPort where
  component : ComponentHandle
  port : String
  deriving DecidableEq, Repr

namespace ComponentPort

/-- Components in the order of creation, then ports by code points. -/
instance : Ord ComponentPort where
  compare := compareLex (compareOn fun id => id.component.index) (compareOn port)

instance : Std.TransOrd ComponentPort :=
  inferInstanceAs
    (Std.TransCmp
      (compareLex (compareOn fun id : ComponentPort => id.component.index) (compareOn port)))

instance : Std.LawfulEqOrd ComponentPort where
  eq_of_compare {a b} h := by
    obtain ⟨components, ports⟩ := Ordering.then_eq_eq.1 h
    obtain ⟨⟨a⟩, _⟩ := a
    obtain ⟨⟨b⟩, _⟩ := b
    obtain rfl : a = b := Std.LawfulEqCmp.eq_of_compare components
    congr
    exact Std.LawfulEqCmp.eq_of_compare ports

end ComponentPort

/-! ## Links -/

/-- The number of a link in the order of creation. -/
structure LinkHandle where
  index : Nat
  deriving DecidableEq, Repr, Inhabited

/-- One end of a link: a port, and the latency on its side. -/
structure LinkEnd where
  component : ComponentHandle
  port : String
  latency : Latency
  deriving DecidableEq, Repr

/-- The port of the end. -/
def LinkEnd.componentPort (linkEnd : LinkEnd) : ComponentPort := ⟨linkEnd.component, linkEnd.port⟩

/-- A link, with both of its ends once it is connected. -/
structure Link where
  name : String
  ends : Option (LinkEnd × LinkEnd)
  deriving DecidableEq, Repr

/-! ## Statistics -/

/-- How a simulation is to collect statistics. -/
structure StatisticsSetup where
  loadLevel : UInt32
  output : String
  options : Parameters
  enableAll : Bool
  deriving DecidableEq

end MemoryFabric

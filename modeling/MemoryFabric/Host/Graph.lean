import MemoryFabric.Host.Component
import MemoryFabric.Host.Error

/-!
# Component graphs

A component graph holds the components and links of a fabric.  It can be asked whether it accepts a call:
whether it is still open, whether it has the component of a handle, and whether a link or a port is without
a connection.  The calls themselves are made of these checks and of small changes in `Host.Recorder`.
-/

namespace MemoryFabric

set_option autoImplicit false

/-- Components and links, with indexes by name and by port. -/
structure ComponentGraph where
  components : Array Component
  componentByName : SortedMap String ComponentHandle
  links : Array Link
  linkByName : SortedMap String LinkHandle
  linkByPort : SortedMap ComponentPort LinkHandle
  statistics : Option StatisticsSetup
  isFinalized : Bool
  deriving DecidableEq

namespace ComponentGraph

/-- The graph without components. -/
def empty : ComponentGraph := ⟨#[], ∅, #[], ∅, ∅, none, false⟩

/-! ## Looking things up -/

/-- The component of a handle. -/
def component? (graph : ComponentGraph) (handle : ComponentHandle) : Option Component :=
  graph.components[handle.index]?

/-- The component of a handle, or the error that there is none. -/
def component (graph : ComponentGraph) (handle : ComponentHandle) : Except HostError Component :=
  match graph.component? handle with
  | some component => .ok component
  | none => .error (.unknownComponent handle.index)

/-- The component that was created last under a name. -/
def find? (graph : ComponentGraph) (name : String) : Option ComponentHandle :=
  graph.componentByName.get? name

/-- The parameters of the component of a name. -/
def parameters? (graph : ComponentGraph) (name : String) : Option Parameters := do
  let component ← graph.component? (← graph.find? name)
  return component.parameters

/-- The link of a name. -/
def link? (graph : ComponentGraph) (name : String) : Option Link := do
  graph.links[(← graph.linkByName.get? name).index]?

/-- The name of the link at a port. -/
def linkAt? (graph : ComponentGraph) (port : ComponentPort) : Option String := do
  let link ← graph.links[(← graph.linkByPort.get? port).index]?
  return link.name

/-- The number of ports with a link. -/
def boundCount (graph : ComponentGraph) : Nat := graph.linkByPort.size

/-- A port by the full name of its component, or by its number when there is no such component. -/
def portText (graph : ComponentGraph) (component : ComponentHandle) (port : String) : String :=
  match graph.component? component with
  | some component => component.name ++ "." ++ port
  | none => component.text ++ "." ++ port

/-- The handle of the next component. -/
def nextHandle (graph : ComponentGraph) : ComponentHandle := ⟨graph.components.size⟩

/-! ## Checks -/

/-- Refuse a call on a finalized graph. -/
def checkOpen (graph : ComponentGraph) (call : HostCall) : Except HostError Unit :=
  if graph.isFinalized then .error (.finalized call) else .ok ()

/-- The link of a handle, which must have no ends yet. -/
def openLink (graph : ComponentGraph) (handle : LinkHandle) : Except HostError Link :=
  match graph.links[handle.index]? with
  | none => .error (.unknownLink handle.index)
  | some link => if link.ends.isSome then .error (.linkConnected link.name) else .ok link

/-- Refuse a port that has a link already. -/
def checkFree (graph : ComponentGraph) (linkEnd : LinkEnd) : Except HostError Unit :=
  match graph.linkAt? linkEnd.componentPort with
  | some name => .error (.portBound (graph.portText linkEnd.component linkEnd.port) name)
  | none => .ok ()

/-- Refuse a graph with a link that has no ends. -/
def checkConnected (graph : ComponentGraph) : Except HostError Unit :=
  match graph.links.find? fun link => link.ends.isNone with
  | some link => .error (.linkOpen link.name)
  | none => .ok ()

/-! ## Changes -/

/-- Change a component. -/
def modify (graph : ComponentGraph) (handle : ComponentHandle) (change : Component → Component) :
    ComponentGraph :=
  { graph with components := graph.components.modify handle.index change }

/-! ## Snapshots -/

/-- What two graphs are compared by. -/
structure Snapshot where
  components : Array Component
  links : Array Link
  statistics : Option StatisticsSetup
  deriving DecidableEq

/-- The snapshot of a graph. -/
def snapshot (graph : ComponentGraph) : Snapshot :=
  ⟨graph.components, graph.links, graph.statistics⟩

end ComponentGraph

end MemoryFabric

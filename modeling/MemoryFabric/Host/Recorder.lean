import MemoryFabric.Host.GraphText
import MemoryFabric.Host.Script

/-!
# The recording host

A recorder is the host that keeps a component graph in memory.  The graph has an entity, and so has every
component: the entity of a component is a child of the graph's entity, and the entity of a subcomponent is
a child of its parent's.  What a command changes is logged at the entity concerned.

A recorder answers a command by a program of steps, which checks, logs and changes one thing after another.  A
step that fails ends the program, and what the steps before it have done stays done.
-/

namespace MemoryFabric

set_option autoImplicit false

/-- A component graph with its entities. -/
structure Recorder where
  tracking : Tracking
  graph : ComponentGraph
  /-- The root of all entities. -/
  top : EntityHandle
  /-- The entity of the graph. -/
  entity : EntityHandle
  /-- The entities of the components, in the order of the components. -/
  parts : Array EntityHandle

namespace Recorder

/-- An empty graph under a tracker. -/
def start (tracker : Tracker) : Except Fault Recorder := do
  let (top, tracking) := (Tracking.start tracker).create none "top"
  let top ← top
  let (entity, tracking) := tracking.create (some top) "graph"
  return ⟨tracking.release top, .empty, top, ← entity, #[]⟩

/-- The entity of a component. -/
def part (recorder : Recorder) (handle : ComponentHandle) : EntityHandle :=
  recorder.parts.getD handle.index recorder.entity

/-- Log a message of an entity. -/
def log (recorder : Recorder) (entity : EntityHandle) (level : Level) (text : String) : Recorder :=
  { recorder with tracking := recorder.tracking.log entity level text }

end Recorder

/-! ## Recordings -/

/-- A program of steps on a recorder.  A step that fails ends it, and the recorder stays as the steps before
have left it. -/
abbrev Recording (α : Type) := ExceptT (Failure HostError) (StateM Recorder) α

namespace Recording

/-- Carry a recording out on a recorder. -/
def on {α : Type} (recording : Recording α) (recorder : Recorder) : Attempt HostError α × Recorder :=
  recording.run recorder

/-- Go on with the value of a computation, or fail as it does. -/
def ofAttempt {α : Type} (result : Attempt HostError α) : Recording α := ExceptT.mk (pure result)

/-- The graph as it is now. -/
def graph : Recording ComponentGraph := return (← get).graph

/-- Ask the graph something that it may refuse. -/
def look {α : Type} (question : ComponentGraph → Except HostError α) : Recording α := do
  ofAttempt (Attempt.reporting (question (← graph)))

/-- Refuse the call under a condition. -/
def refuseIf (condition : Bool) (error : HostError) : Recording Unit :=
  if condition then ofAttempt (Attempt.report error) else pure ()

/-- Change the graph. -/
def edit (change : ComponentGraph → ComponentGraph) : Recording Unit :=
  modify fun recorder => { recorder with graph := change recorder.graph }

/-- Change what is tracked. -/
def track (change : Tracking → Tracking) : Recording Unit :=
  modify fun recorder => { recorder with tracking := change recorder.tracking }

/-- Log a message of an entity. -/
def log (entity : EntityHandle) (level : Level) (text : String) : Recording Unit :=
  modify fun recorder => recorder.log entity level text

/-- Create an entity. -/
def createEntity (parent : EntityHandle) (name : String) : Recording EntityHandle := do
  let recorder ← get
  let (entity, tracking) := recorder.tracking.create (some parent) name
  set { recorder with tracking }
  ofAttempt (Attempt.checked entity)

/-- Append a component, and give it an entity. -/
def addComponent (parent : EntityHandle) (component : Component) (entityName : String) :
    Recording ComponentHandle := do
  let handle := (← graph).nextHandle
  let entity ← createEntity parent entityName
  log entity .debug s!"created {component.name} ({component.kind})"
  edit fun graph =>
    { graph with componentByName := graph.componentByName.insert component.name handle }
  edit fun graph => { graph with components := graph.components.push component }
  modify fun recorder => { recorder with parts := recorder.parts.push entity }
  return handle

/-! ## Calls -/

/-- Create a component. -/
def createComponent (kind name : String) : Recording ComponentHandle := do
  look (·.checkOpen .createComponent)
  refuseIf (kind.isEmpty || name.isEmpty) (.unnamedComponent name kind)
  refuseIf ((← graph).componentByName.contains name) (.duplicateComponent name)
  addComponent (← get).entity (.bare name kind none) name

/-- Create a subcomponent in a slot of a component. -/
def attachSubcomponent (parent : ComponentHandle) (slot kind : String) :
    Recording ComponentHandle := do
  look (·.checkOpen .attachSubcomponent)
  refuseIf (kind.isEmpty || slot.isEmpty) (.unnamedSubcomponent slot kind)
  let owner ← look (·.component parent)
  refuseIf (owner.slots.contains slot) (.slotFilled slot owner.name)
  let component := Component.bare (owner.name ++ "." ++ slot) kind (some (parent, slot))
  let handle ← addComponent ((← get).part parent) component slot
  edit (·.modify parent (·.fill slot handle))
  return handle

/-- Set parameters of a component; each of them is logged. -/
def setParameters (handle : ComponentHandle) (parameters : Parameters) : Recording Unit := do
  look (·.checkOpen .setParameters)
  let _ ← look (·.component handle)
  let entity := (← get).part handle
  parameters.toList.forM fun entry => log entity .debug s!"{entry.1} = {entry.2.written}"
  edit (·.modify handle (·.extend parameters))

/-- Create a link, which has no ends yet. -/
def createLink (name : String) : Recording LinkHandle := do
  look (·.checkOpen .createLink)
  refuseIf ((← graph).linkByName.contains name) (.duplicateLink name)
  let handle : LinkHandle := ⟨(← graph).links.size⟩
  edit fun graph => { graph with links := graph.links.push ⟨name, none⟩ }
  edit fun graph => { graph with linkByName := graph.linkByName.insert name handle }
  return handle

/-- Connect a link to two ports. -/
def connect (handle : LinkHandle) (a b : LinkEnd) : Recording Unit := do
  look (·.checkOpen .connect)
  let link ← look (·.openLink handle)
  let _ ← look (·.component a.component)
  let _ ← look (·.component b.component)
  refuseIf (a.componentPort = b.componentPort)
    (.selfLink link.name ((← graph).portText a.component a.port))
  look (·.checkFree a)
  look (·.checkFree b)
  -- Nothing below can be refused.
  let recorder ← get
  log recorder.entity .debug (link.name ++ ": " ++ recorder.graph.endsText a b)
  track (·.connect (recorder.part a.component) (recorder.part b.component))
  edit fun graph => { graph with linkByPort := graph.linkByPort.insert a.componentPort handle }
  edit fun graph => { graph with linkByPort := graph.linkByPort.insert b.componentPort handle }
  edit fun graph =>
    { graph with
      links := graph.links.modify handle.index fun link => { link with ends := some (a, b) } }

/-- Set how statistics are collected. -/
def configureStatistics (setup : StatisticsSetup) : Recording Unit := do
  look (·.checkOpen .configureStatistics)
  edit fun graph => { graph with statistics := some setup }

/-- Close the graph; every link must be connected. -/
def finalize : Recording Unit := do
  look (·.checkOpen .finalize)
  look (·.checkConnected)
  edit fun graph => { graph with isFinalized := true }
  let recorder ← get
  log recorder.entity .debug
    s!"finalized with {recorder.graph.components.size} components and {recorder.graph.links.size} links"

/-- The full name of a component. -/
def componentName (handle : ComponentHandle) : Recording String := do
  return (← look (·.component handle)).name

/-- The recording that answers a command. -/
def perform : (command : Command) → Recording command.Answer
  | .createComponent kind name => createComponent kind name
  | .attachSubcomponent parent slot kind => attachSubcomponent parent slot kind
  | .setParameters handle parameters => setParameters handle parameters
  | .createLink name => createLink name
  | .connect link a b => connect link a b
  | .configureStatistics setup => configureStatistics setup
  | .finalize => finalize
  | .componentName handle => componentName handle
  | .createEntity parent name => createEntity parent name
  | .release entity => track (·.release entity)
  | .log entity level text => log entity level text

end Recording

/-! ## The host -/

namespace Recorder

/-- The answer to a command. -/
def answer (command : Command) (recorder : Recorder) : Attempt HostError command.Answer × Recorder :=
  (Recording.perform command).on recorder

/-- Let go of the graph: its own entity first, then the components from the first to the last. -/
def drop (recorder : Recorder) : Recorder :=
  { recorder with
    tracking := recorder.tracking.releaseAll (recorder.entity :: recorder.parts.toList) }

/-- The recorder as a host. -/
def host : Host Recorder := ⟨answer⟩

end Recorder

end MemoryFabric

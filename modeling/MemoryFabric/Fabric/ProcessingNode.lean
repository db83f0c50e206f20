import MemoryFabric.Fabric.Core
import MemoryFabric.Fabric.Kind
import MemoryFabric.Fabric.Parameters
import MemoryFabric.Fabric.Wiring
import MemoryFabric.Fabric.WorkingSet
import MemoryFabric.Text.Hexadecimal

/-!
# Processing nodes

A processing node is a core with its private cache.  Whatever drives the core, it has one port towards
the cache, which belongs to the node's client component: the interface of a core that runs a program, or
the generator's core itself.
-/

namespace MemoryFabric

set_option autoImplicit false

/-- A core with its private cache. -/
structure ProcessingNode where
  entity : EntityHandle
  index : Nat
  core : Core
  /-- The component of the core. -/
  component : ComponentHandle
  /-- The component with the port towards the cache. -/
  client : ComponentHandle
  cache : ComponentHandle
  deriving DecidableEq, Repr

namespace ProcessingNode

/-- The name of the node with a number. -/
def nodeName (index : Nat) : String := s!"cpu{index}"

/-- The name of the private cache of the node with a number. -/
def cacheNameOf (index : Nat) : String := s!"l1_{index}"

/-- The name of the private cache. -/
def cacheName (node : ProcessingNode) : String := cacheNameOf node.index

/-- Fill a core that runs a program; gives its client. -/
def createProgram (settings : Settings) (entity : EntityHandle) (component : ComponentHandle)
    (index : Nat) : Build ComponentHandle := do
  let arguments := nodeArguments settings.compute.arguments index
  let placement ← Build.ofExcept (WorkingSet.ofNode index settings.memory.totalBytes)
  Build.setParameters component
    ((Table.programCore settings).insertAll
      [("memSize", .unsigned placement.memorySize),
        ("heapBuffer", .unsigned placement.heapBuffer),
        ("args", .text arguments)])
  Build.log entity .info
    (s!"REV_CPU[{index}] args={arguments} mem_top=" ++ Text.hexadecimal placement.memorySize)
  let controller ←
    Build.attachWith component "memory" Kind.coreController (Table.coreController settings)
  Build.attachWith controller "memIface" Kind.coreInterface Table.coreInterface

/-- Fill a core that issues the requests of a workload generator; gives its client. -/
def createGenerator (settings : Settings) (entity : EntityHandle) (component : ComponentHandle)
    (index : Nat) (workload : String) : Build ComponentHandle := do
  let arguments := nodeArguments settings.compute.arguments index
  Build.setParameters component ((Table.generator settings).insert "args" (.text arguments))
  Build.log entity .info s!"APP_CPU[{index}] ({workload}) args={arguments}"
  let _ ←
    Build.attachWith component "generator" (Kind.generator workload) (Table.generator settings)
  return component

/-- Fill a core; gives the component with the port towards the cache. -/
def createClient (settings : Settings) (entity : EntityHandle) (component : ComponentHandle)
    (index : Nat) : Core → Build ComponentHandle
  | .program => createProgram settings entity component index
  | .generator workload => createGenerator settings entity component index workload

/-- The components of a node with its entity. -/
def createParts (settings : Settings) (entity : EntityHandle) (core : Core) (index : Nat) :
    Build ProcessingNode := do
  let component ← Build.createComponent core.kind (nodeName index)
  let client ← createClient settings entity component index core
  let cache ←
    Build.createWith Kind.cache (cacheNameOf index) (Table.firstCache settings index)
  return ⟨entity, index, core, component, client, cache⟩

/-- Create the node with a number. -/
def create (parent : EntityHandle) (settings : Settings) (core : Core) (index : Nat) :
    Build ProcessingNode := do
  let entity ← Build.createEntity parent (nodeName index)
  (createParts settings entity core index).orRelease [entity]

/-- The port of the core towards the cache. -/
def clientPort (node : ProcessingNode) : Build PortId :=
  Build.portOf node.client node.core.cachePort

/-- The port of the cache towards the core. -/
def cachePort (node : ProcessingNode) : PortId := ⟨node.cacheName, PortName.above⟩

/-- The port of the cache towards the bus. -/
def downlink (node : ProcessingNode) : PortId := ⟨node.cacheName, PortName.below⟩

/-- Connect the core to its cache. -/
def wire (node : ProcessingNode) (latency : Latency) : Wiring Unit := do
  let client ← Wiring.ofBuild node.clientPort
  Wiring.connect s!"link_cpu_l1_{node.index}" ⟨node.client, client⟩ ⟨node.cache, node.cachePort⟩
    latency

/-- The entities of the node. -/
def entities (node : ProcessingNode) : List EntityHandle := [node.entity]

end ProcessingNode

end MemoryFabric

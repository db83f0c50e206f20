import MemoryFabric.Fabric.Kind
import MemoryFabric.Fabric.Parameters
import MemoryFabric.Fabric.Wiring
import MemoryFabric.Text.Hexadecimal

/-!
# Memory nodes

A memory node is a controller with two backends, one for processing and one for storage, and a network
interface on the router.  It owns the addresses of its descriptor.
-/

namespace MemoryFabric

set_option autoImplicit false

/-- A memory controller with its backends. -/
structure MemoryNode where
  entity : EntityHandle
  descriptor : NodeDescriptor
  controller : ComponentHandle
  accelerator : ComponentHandle
  storage : ComponentHandle
  interface : ComponentHandle
  /-- The port towards the router. -/
  uplink : PortId
  deriving DecidableEq, Repr

namespace MemoryNode

/-- The name of the node with a number. -/
def nodeName (index : Nat) : String := s!"memory{index}"

/-- The name of the node. -/
def name (node : MemoryNode) : String := nodeName node.descriptor.node

/-- The turns that a node takes, in the log. -/
def turnsText : Option Interleave → String
  | some interleave =>
    s!" interleave_size={ByteSize.written interleave.granule}" ++
      s!" interleave_step={ByteSize.written interleave.stride}"
  | none => ""

/-- What the log says about the addresses of a node. -/
def addressText (settings : Settings) (descriptor : NodeDescriptor) : String :=
  nodeName descriptor.node ++
    " start=" ++ Text.upperHexadecimal descriptor.range.first ++
    " end=" ++ Text.upperHexadecimal descriptor.range.last ++
    " size=" ++ Text.upperHexadecimal (Table.nodeCapacity settings) ++
    turnsText descriptor.interleave

/-- The components of a node with its entity. -/
def createParts (settings : Settings) (entity : EntityHandle) (descriptor : NodeDescriptor) :
    Build MemoryNode := do
  let controller ←
    Build.createWith Kind.memoryController (nodeName descriptor.node)
      (Table.memoryController settings descriptor)
  let accelerator ←
    Build.attachWith controller "backend" Kind.acceleratorBackend
      (Table.acceleratorBackend settings descriptor.node)
  let storage ←
    Build.attachWith accelerator "backend" settings.memory.model.kind
      (Table.storageBackend settings)
  let interface ←
    Build.attachWith controller "cpulink" Kind.networkInterface
      (Table.networkInterface settings .memory)
  let uplink ← Build.portOf interface PortName.single
  Build.log entity .info (addressText settings descriptor)
  Build.log entity .debug
    s!"{settings.memory.model.name} backend, PIM type {settings.memory.unit.code}"
  return ⟨entity, descriptor, controller, accelerator, storage, interface, uplink⟩

/-- Create the node of a descriptor. -/
def create (parent : EntityHandle) (settings : Settings) (descriptor : NodeDescriptor) :
    Build MemoryNode := do
  let entity ← Build.createEntity parent (nodeName descriptor.node)
  (createParts settings entity descriptor).orRelease [entity]

/-- Create the nodes of descriptors after others; when one fails, all of them are let go. -/
def createAll (parent : EntityHandle) (settings : Settings) (created : List MemoryNode) :
    List NodeDescriptor → Build (List MemoryNode)
  | [] => return created
  | descriptor :: rest => do
    let node ← (create parent settings descriptor).orRelease (created.map entity)
    createAll parent settings (created ++ [node]) rest

end MemoryNode

end MemoryFabric

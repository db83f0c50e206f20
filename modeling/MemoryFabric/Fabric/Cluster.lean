import MemoryFabric.Fabric.ProcessingNode
import MemoryFabric.Port.Allocator

/-!
# The compute cluster

The processing nodes of a fabric share a bus and a second cache; the network interface of that cache is
the way from the cluster to the router.
-/

namespace MemoryFabric

set_option autoImplicit false

/-- Processing nodes behind a bus and a shared cache. -/
structure Cluster where
  entity : EntityHandle
  nodes : List ProcessingNode
  bus : ComponentHandle
  /-- The ports of the bus towards the nodes, in the order of the nodes. -/
  busPorts : List PortId
  cache : ComponentHandle
  /-- The part of the cache that faces the bus. -/
  memoryLink : ComponentHandle
  interface : ComponentHandle
  /-- The port towards the router. -/
  uplink : PortId
  deriving DecidableEq, Repr

namespace Cluster

/-- Create processing nodes after others; when one fails, all of them are let go. -/
def createNodes (entity : EntityHandle) (settings : Settings) (core : Core)
    (created : List ProcessingNode) : List Nat → Build (List ProcessingNode)
  | [] => return created
  | index :: rest => do
    let node ←
      (ProcessingNode.create entity settings core index).orRelease
        (created.flatMap ProcessingNode.entities)
    createNodes entity settings core (created ++ [node]) rest

/-- Create what the processing nodes share; `cacheNode` is the node number of the shared cache. -/
def createShared (entity : EntityHandle) (settings : Settings) (cacheNode : Nat)
    (ports : List PortId) (nodes : List ProcessingNode) : Build Cluster := do
  let bus ← Build.createWith Kind.bus busName (Table.bus settings)
  let cache ← Build.createWith Kind.cache sharedCacheName (Table.secondCache settings cacheNode)
  let memoryLink ← Build.attachWith cache "cpulink" Kind.memoryLink Table.memoryLink
  let interface ←
    Build.attachWith cache "memlink" Kind.networkInterface
      (Table.networkInterface settings .compute)
  let uplink ← Build.portOf interface PortName.single
  Build.log entity .debug s!"{nodes.length} processing nodes on {ports.length} bus ports"
  return ⟨entity, nodes, bus, ports, cache, memoryLink, interface, uplink⟩

/-- The components of a cluster with its entity. -/
def createParts (entity : EntityHandle) (settings : Settings) (cacheNode : Nat)
    (ports : List PortId) : Build Cluster := do
  let core := Core.ofSettings settings
  let nodes ←
    createNodes entity settings core [] (List.range settings.compute.processingNodes.toNat)
  (createShared entity settings cacheNode ports nodes).orRelease
    (nodes.flatMap ProcessingNode.entities)

/-- Create a cluster; `cacheNode` is the node number of its shared cache. -/
def create (parent : EntityHandle) (settings : Settings) (cacheNode : Nat) : Build Cluster := do
  let ports ← Build.ofExcept (MemoryFabric.busPorts busName settings.compute.processingNodes.toNat)
  let entity ← Build.createEntity parent "cluster"
  (createParts entity settings cacheNode ports).orRelease [entity]

/-- The port of the bus towards the shared cache. -/
def busDownlink : PortId := ⟨busName, PortName.below⟩

/-- The port of the shared cache towards the bus. -/
def cachePort (cluster : Cluster) : Build PortId :=
  Build.portOf cluster.memoryLink PortName.single

/-- The ports of the processing nodes. -/
def nodePorts : List ProcessingNode → Build (List PortId)
  | [] => return []
  | node :: rest => do
    let client ← node.clientPort
    return client :: node.cachePort :: node.downlink :: (← nodePorts rest)

/-- Every port inside the cluster that has to be connected. -/
def expectedPorts (cluster : Cluster) : Build (List PortId) := do
  let ports ← nodePorts cluster.nodes
  return ports ++ cluster.busPorts ++ [busDownlink, ← cluster.cachePort]

/-- Connect processing nodes to their caches, and the caches to the bus. -/
def wireNodes (bus : ComponentHandle) (latency : Latency) :
    List (ProcessingNode × PortId) → Wiring Unit
  | [] => return ()
  | (node, port) :: rest => do
    node.wire latency
    Wiring.connect s!"link_l1_{node.index}_cpubus" ⟨node.cache, node.downlink⟩ ⟨bus, port⟩ latency
    wireNodes bus latency rest

/-- Connect everything inside the cluster; the way to the router is left open. -/
def wire (cluster : Cluster) (latency : Latency) : Wiring Unit := do
  wireNodes cluster.bus latency (cluster.nodes.zip cluster.busPorts)
  let port ← Wiring.ofBuild cluster.cachePort
  Wiring.connect "link_cpubus_l2" ⟨cluster.bus, busDownlink⟩ ⟨cluster.memoryLink, port⟩ latency

/-- The entities of the cluster, in the order in which they are let go. -/
def entities (cluster : Cluster) : List EntityHandle :=
  cluster.entity :: cluster.nodes.flatMap ProcessingNode.entities

end Cluster

end MemoryFabric

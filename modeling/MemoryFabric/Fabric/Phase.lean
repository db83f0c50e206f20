import MemoryFabric.Address.Coverage
import MemoryFabric.Address.Partition
import MemoryFabric.Fabric.Cluster
import MemoryFabric.Fabric.MemoryNode

/-!
# The phases of a build

A fabric is built in four phases.  First the configuration is checked and the address space is shared out;
then the processing nodes and memory nodes are created; then the router is created and everything is
linked; at last the statistics are set up and the host is finalized.  Each phase takes over what the one
before it holds, and lets go of it when it fails; the entity of the fabric stays with whoever runs the
phases.
-/

namespace MemoryFabric

set_option autoImplicit false

/-! ## Sharing out the addresses -/

/-- A configuration with the address ranges of its memory nodes. -/
structure Partitioned where
  settings : Settings
  descriptors : List NodeDescriptor
  decoder : AddressDecoder
  deriving DecidableEq

namespace Partitioned

/-- Check a configuration and share out its address space. -/
def ofSettings (settings : Settings) : Built Partitioned := do
  Attempt.reporting settings.check
  let memory := settings.memory
  let descriptors ← partition memory.totalBytes memory.nodes.toNat memory.interleave
  let decoder ← verifyCoverage memory.totalBytes descriptors
  return ⟨settings, descriptors, decoder⟩

/-- What the log says about a partition. -/
def announcement (settings : Settings) : String :=
  s!"NODES={settings.memory.nodes} INTERLEAVE={settings.memory.interleave.name} total=" ++
    Text.upperHexadecimal settings.memory.totalBytes

/-- The first phase. -/
def create (fabric : EntityHandle) (settings : Settings) : Build Partitioned := do
  let partitioned ← Build.ofBuilt (ofSettings settings)
  Build.log fabric .info (announcement settings)
  return partitioned

end Partitioned

/-! ## Creating the nodes -/

/-- The components of a fabric, which are not linked yet. -/
structure Populated extends Partitioned where
  cluster : Cluster
  memoryNodes : List MemoryNode
  deriving DecidableEq

/-- The entities of a populated fabric, in the order in which they are let go. -/
def Populated.entities (fabric : Populated) : List EntityHandle :=
  fabric.cluster.entities ++ fabric.memoryNodes.map MemoryNode.entity

namespace Partitioned

/-- The node number of the shared cache. -/
def sharedCacheNode : Nat := 0

/-- The second phase. -/
def populate (fabric : EntityHandle) (partitioned : Partitioned) : Build Populated := do
  let settings := partitioned.settings
  let cluster ← Cluster.create fabric settings sharedCacheNode
  let memoryNodes ←
    (MemoryNode.createAll fabric settings [] partitioned.descriptors).orRelease cluster.entities
  Build.log fabric .debug
    s!"instantiated {cluster.nodes.length} processing nodes and {memoryNodes.length} memory nodes"
  return { partitioned with cluster, memoryNodes }

end Partitioned

/-! ## Linking -/

/-- A fabric with all of its links. -/
structure Linked extends Populated where
  router : ComponentHandle
  routerPorts : RouterPorts
  ledger : WiringLedger
  deriving DecidableEq

namespace Populated

/-- Expect every port that has to be connected. -/
def expectPorts (fabric : Populated) (ports : RouterPorts) : Wiring Unit := do
  Wiring.expectAll (← Wiring.ofBuild fabric.cluster.expectedPorts)
  Wiring.expect fabric.cluster.uplink
  Wiring.expectAll ports.toList
  Wiring.expectAll (fabric.memoryNodes.map MemoryNode.uplink)

/-- Create the router. -/
def createRouter (settings : Settings) (ports : RouterPorts) : Build ComponentHandle := do
  let router ← Build.createWith Kind.router routerName (Table.router settings ports.count)
  let _ ← Build.attachSubcomponent router "topology" Table.routerTopology
  return router

/-- Connect memory nodes to ports of the router. -/
def wireMemoryNodes (router : ComponentHandle) (latency : Latency) :
    List (MemoryNode × PortId) → Wiring Unit
  | [] => return ()
  | (node, port) :: rest => do
    Wiring.connect s!"link_dir_net_{node.descriptor.node}" ⟨router, port⟩
      ⟨node.interface, node.uplink⟩ latency
    wireMemoryNodes router latency rest

/-- Create the router and every link; gives the router. -/
def wire (fabric : Populated) (ports : RouterPorts) (latency : Latency) :
    Wiring ComponentHandle := do
  fabric.expectPorts ports
  fabric.cluster.wire latency
  let router ← Wiring.ofBuild (createRouter fabric.settings ports)
  Wiring.connect "link_cache_net_0" ⟨fabric.cluster.interface, fabric.cluster.uplink⟩
    ⟨router, ports.uplink⟩ latency
  wireMemoryNodes router latency (fabric.memoryNodes.zip ports.memory)
  Wiring.verify
  return router

/-- What the log says about the links. -/
def wiringText (ports : RouterPorts) (ledger : WiringLedger) : String :=
  s!"{routerName}: {ports.count} ports, {ledger.connectedCount} of {ledger.allocatedCount} " ++
    "fabric ports connected"

/-- Link all parts of a fabric. -/
def linkParts (fabric : EntityHandle) (populated : Populated) : Build Linked := do
  let latency ←
    Build.ofBuilt (Attempt.checked (Latency.ofNanoseconds populated.settings.timing.linkLatency))
  let ports ← Build.ofExcept (RouterPorts.ofMemoryNodes routerName populated.memoryNodes.length)
  let (router, ledger) ← (populated.wire ports latency).runWith .empty
  Build.log fabric .info (wiringText ports ledger)
  return { populated with router, routerPorts := ports, ledger }

/-- The third phase. -/
def link (fabric : EntityHandle) (populated : Populated) : Build Linked :=
  (linkParts fabric populated).orRelease populated.entities

end Populated

/-! ## Finalizing -/

/-- A finished fabric. -/
structure Topology extends Populated where
  /-- The entity of the fabric. -/
  entity : EntityHandle
  router : ComponentHandle
  routerPorts : RouterPorts
  /-- The number of ports that had to be connected. -/
  allocatedPorts : Nat
  /-- The number of ports that are connected. -/
  connectedPorts : Nat
  deriving DecidableEq

namespace Linked

/-- The file that statistics go to. -/
def statisticsPath (settings : Settings) : String :=
  if settings.outputDirectory.isEmpty then "./" ++ settings.statistics.fileName
  else
    String.ofList (settings.outputDirectory.toList.reverse.dropWhile (· = '/')).reverse ++ "/" ++
      settings.statistics.fileName

/-- How statistics are collected. -/
def statisticsSetup (settings : Settings) : StatisticsSetup where
  loadLevel := settings.statistics.loadLevel
  output := settings.statistics.output
  options :=
    SortedMap.ofList
      [("filepath", .text (statisticsPath settings)),
        ("separator", .text settings.statistics.separator)]
  enableAll := settings.statistics.enableAll

/-- Set up the statistics and close the graph. -/
def close (linked : Linked) : Build Unit := do
  Build.configureStatistics (statisticsSetup linked.settings)
  Build.finalize

/-- The last phase. -/
def finish (fabric : EntityHandle) (linked : Linked) : Build Topology := do
  linked.close.orRelease
    (linked.memoryNodes.map MemoryNode.entity ++ linked.cluster.entities)
  Build.log fabric .info s!"finalized with {linked.memoryNodes.length} memory nodes"
  return {
    linked with
    entity := fabric
    allocatedPorts := linked.ledger.allocatedCount
    connectedPorts := linked.ledger.connectedCount }

end Linked

end MemoryFabric

import MemoryFabric.Fabric.Phase

/-!
# Fabrics

A fabric is built by running the phases one after another.  When a phase stops with an error, the error is
logged at the entity of the fabric; the host is finalized by the last phase only, so a build that fails
never hands out an incomplete graph.
-/

namespace MemoryFabric

set_option autoImplicit false

namespace Topology

/-- All phases in their order. -/
def runPhases (fabric : EntityHandle) (settings : Settings) : Build Topology := do
  let partitioned ← Partitioned.create fabric settings
  let populated ← partitioned.populate fabric
  let linked ← populated.link fabric
  linked.finish fabric

/-- Log the error that a build stops with. -/
def reportFailure (fabric : EntityHandle) : Failure BuildError → Script Unit
  | .reported error => do
    let _ ← Script.perform (.log fabric .error ("build aborted: " ++ error.message))
    return ()
  | .fault _ => return ()

/-- A build that logs the error it stops with. -/
def orReport {α : Type} (build : Build α) (fabric : EntityHandle) : Build α :=
  ExceptT.mk do
    match ← build.run with
    | .ok value => return .ok value
    | .error failure =>
      reportFailure fabric failure
      return .error failure

/-- Build a fabric. -/
def build (parent : EntityHandle) (settings : Settings) : Build Topology := do
  let fabric ← Build.createEntity parent "fabric"
  (orReport (runPhases fabric settings) fabric).orRelease [fabric]

/-- All entities of a fabric, in the order in which they are let go. -/
def allEntities (topology : Topology) : List EntityHandle :=
  topology.entity :: topology.entities

/-- The memory node of a name. -/
def memoryNode (topology : Topology) (name : String) : Except BuildError MemoryNode :=
  match topology.memoryNodes.find? fun node => node.name = name with
  | some node => .ok node
  | none => .error (.configuration (.unknownMemoryNode name))

/-- The lines of the summary; entities are written with their full names. -/
def lines (topology : Topology) (fullName : EntityHandle → String) : List String :=
  "ProcessingNodes:" ::
    (topology.cluster.nodes.map fun node => s!"  {node.index}: {fullName node.entity}") ++
    "" :: "MemoryNodes:" ::
    ((topology.memoryNodes.zip topology.descriptors).map fun (node, descriptor) =>
      s!"  {fullName node.entity}: {descriptor.text}") ++
    "" :: s!"Router {routerName}:" ::
    (topology.routerPorts.toList.map fun port => "  " ++ port.text) ++
    ["", s!"{topology.connectedPorts} of {topology.allocatedPorts} ports connected"]

/-- The summary; every line ends with a line feed. -/
def text (topology : Topology) (fullName : EntityHandle → String) : String :=
  String.join ((topology.lines fullName).map fun line => line ++ "\n")

end Topology

/-! ## Steps by hand -/

/-- Run the first phase for a new fabric; gives its entity, too. -/
def Partitioned.start (parent : EntityHandle) (settings : Settings) :
    Build (EntityHandle × Partitioned) := do
  let fabric ← Build.createEntity parent "fabric"
  return (fabric, ← (Partitioned.create fabric settings).orRelease [fabric])

end MemoryFabric

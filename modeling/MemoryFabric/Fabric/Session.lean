import MemoryFabric.Fabric.Topology
import MemoryFabric.Host.Recorder

/-!
# Building by hand

A session works on one recorder.  It has a configuration and a ledger, it can go through the phases of a
build one at a time, build whole fabrics, and create clusters and nodes of their own.  What a session has
made it holds, until it is dropped, handed to the next phase, or replaced by something newer; the newer
thing is made before the older one is let go.
-/

namespace MemoryFabric

set_option autoImplicit false

/-- How far a fabric has been built. -/
inductive Stage where
  | partitioned (fabric : Partitioned)
  | populated (fabric : Populated)
  | linked (fabric : Linked)

/-- A fabric that is being built, with its entity. -/
structure Construction where
  fabric : EntityHandle
  stage : Stage

/-- The entities of a construction, in the order in which they are let go. -/
def Construction.entities (construction : Construction) : List EntityHandle :=
  construction.fabric ::
    match construction.stage with
    | .partitioned _ => []
    | .populated populated => populated.entities
    | .linked linked => linked.entities

/-- What a session works on. -/
structure Session where
  recorder : Recorder
  /-- The number of structural calls so far. -/
  calls : Nat
  /-- The number of a call that the host refuses. -/
  refusedCall : Option Nat
  settings : Settings
  ledger : WiringLedger := .empty
  construction : Option Construction := none
  topology : Option Topology := none
  cluster : Option Cluster := none
  nodes : List ProcessingNode := []
  memoryNodes : List MemoryNode := []

/-- A step of a session. -/
abbrev SessionM := StateM Session

namespace Session

/-- A session on an empty graph. -/
def start (tracker : Tracker) (refusedCall : Option Nat) (settings : Settings) :
    Except Fault Session := do
  let recorder ← Recorder.start tracker
  return { recorder, calls := 0, refusedCall, settings }

/-- Run a script. -/
def runScript {α : Type} (script : Script α) : SessionM α := fun session =>
  let host := Recorder.host.interruptedAt session.refusedCall
  let (value, recorder, calls) := script.run host (session.recorder, session.calls)
  (value, { session with recorder, calls })

/-- Run a build. -/
def runBuild {α : Type} (build : Build α) : SessionM (Built α) := runScript build.run

/-- Run a wiring with the ledger of the session. -/
def runWiring {α : Type} (wiring : Wiring α) : SessionM (Built α) := do
  let (value, ledger) ← runScript (wiring.run (← get).ledger)
  modify fun session => { session with ledger }
  return value

/-- Let go of entities. -/
def release (entities : List EntityHandle) : SessionM Unit := runScript (Build.releaseAll entities)

/-! ## Whole fabrics -/

/-- Keep a topology instead of the one before. -/
def keepTopology (result : Built Topology) : SessionM (Built Topology) := do
  let before := (← get).topology
  if let .ok topology := result then
    modify fun session => { session with topology := some topology }
    release ((before.map Topology.allEntities).getD [])
  return result

/-- Build a fabric. -/
def build (settings : Settings) : SessionM (Built Topology) := do
  keepTopology (← runBuild (Topology.build (← get).recorder.top settings))

/-- Build a fabric of a configuration that has just been read. -/
def buildRead (settings : Except BuildError Settings) : SessionM (Built Topology) :=
  match settings with
  | .ok settings => build settings
  | .error error => return Attempt.report error

/-! ## Phases -/

/-- Start a construction, in place of the one before; when it fails, the one before stays. -/
def partition : SessionM (Built Partitioned) := do
  let session ← get
  match ← runBuild (Partitioned.start session.recorder.top session.settings) with
  | .error failure => return .error failure
  | .ok (fabric, partitioned) =>
    modify fun session =>
      { session with construction := some ⟨fabric, .partitioned partitioned⟩ }
    release ((session.construction.map Construction.entities).getD [])
    return .ok partitioned

/-- Take the construction on to a phase; when that fails, the construction is gone. -/
def advance {α : Type} (fabric : EntityHandle) (phase : Build α) (stage : α → Option Stage) :
    SessionM (Built α) := do
  modify fun session => { session with construction := none }
  let result ← runBuild (phase.orRelease [fabric])
  if let .ok value := result then
    modify fun session => { session with construction := (stage value).map (Construction.mk fabric) }
  return result

/-- Create the nodes of the construction; `none` when that is not its next phase. -/
def populate : SessionM (Option (Built Populated)) := do
  match (← get).construction with
  | some ⟨fabric, .partitioned partitioned⟩ =>
    return some (← advance fabric (partitioned.populate fabric) fun next => some (.populated next))
  | _ => return none

/-- Link the construction; `none` when that is not its next phase. -/
def link : SessionM (Option (Built Linked)) := do
  match (← get).construction with
  | some ⟨fabric, .populated populated⟩ =>
    return some (← advance fabric (populated.link fabric) fun next => some (.linked next))
  | _ => return none

/-- Finish the construction and keep its topology; `none` when that is not its next phase. -/
def finish : SessionM (Option (Built Topology)) := do
  match (← get).construction with
  | some ⟨fabric, .linked linked⟩ =>
    return some (← keepTopology (← advance fabric (linked.finish fabric) fun _ => none))
  | _ => return none

/-! ## Parts -/

/-- Create a cluster and keep it instead of the one before. -/
def createCluster (cacheNode : Nat) : SessionM (Built Cluster) := do
  let session ← get
  let result ← runBuild (Cluster.create session.recorder.top session.settings cacheNode)
  if let .ok cluster := result then
    modify fun session => { session with cluster := some cluster }
    release ((session.cluster.map Cluster.entities).getD [])
  return result

/-- Create a processing node and keep it. -/
def createNode (core : Core) (index : Nat) : SessionM (Built ProcessingNode) := do
  let session ← get
  let result ← runBuild (ProcessingNode.create session.recorder.top session.settings core index)
  if let .ok node := result then
    modify fun session => { session with nodes := session.nodes ++ [node] }
  return result

/-- Create a memory node and keep it. -/
def createMemoryNode (descriptor : NodeDescriptor) : SessionM (Built MemoryNode) := do
  let session ← get
  let result ← runBuild (MemoryNode.create session.recorder.top session.settings descriptor)
  if let .ok node := result then
    modify fun session => { session with memoryNodes := session.memoryNodes ++ [node] }
  return result

/-! ## Dropping -/

/-- Drop the construction. -/
def dropConstruction : SessionM Unit := do
  let entities := ((← get).construction.map Construction.entities).getD []
  modify fun session => { session with construction := none }
  release entities

/-- Drop the topology. -/
def dropTopology : SessionM Unit := do
  let entities := ((← get).topology.map Topology.allEntities).getD []
  modify fun session => { session with topology := none }
  release entities

/-- Drop the cluster. -/
def dropCluster : SessionM Unit := do
  let entities := ((← get).cluster.map Cluster.entities).getD []
  modify fun session => { session with cluster := none }
  release entities

/-- Drop the processing nodes. -/
def dropNodes : SessionM Unit := do
  let entities := (← get).nodes.flatMap ProcessingNode.entities
  modify fun session => { session with nodes := [] }
  release entities

/-- Drop the memory nodes. -/
def dropMemoryNodes : SessionM Unit := do
  let entities := (← get).memoryNodes.map MemoryNode.entity
  modify fun session => { session with memoryNodes := [] }
  release entities

end Session

/-! ## Fresh graphs -/

/-- Build a fabric on a fresh graph under a tracker. -/
def Topology.buildFresh (tracker : Tracker) (settings : Settings) :
    Except Fault (Built Topology × Recorder) := do
  let recorder ← Recorder.start tracker
  return (Topology.build recorder.top settings).run.run Recorder.host recorder

/-- Whether a configuration can be built, whether two builds of it give the same graph, and whether that is
a given graph. -/
def rebuildsTo (settings : Settings) (graph : ComponentGraph) : Except Fault (Bool × Bool × Bool) := do
  let (first, one) ← Topology.buildFresh .silent settings
  let (second, two) ← Topology.buildFresh .silent settings
  match first, second with
  | .error (.fault fault), _ => throw fault
  | _, .error (.fault fault) => throw fault
  | _, _ =>
    return (first.isOk && second.isOk,
      decide (one.graph.snapshot = two.graph.snapshot),
      decide (one.graph.snapshot = graph.snapshot))

end MemoryFabric

import MemoryFabric.Configuration.Settings
import MemoryFabric.Fabric.Error
import MemoryFabric.Text.Blank

/-!
# Working sets and the check of a configuration

Every processing node that runs a program gets its own window at the top of memory, one stride below the
window of its neighbour.  A configuration is checked before anything is built; that the window of the last
node fits is enough for all of them.
-/

namespace MemoryFabric

set_option autoImplicit false

/-- The distance between the windows of neighbouring processing nodes. -/
def workingSetStride : Nat := 0x10000

/-- The stack and heap of one processing node. -/
structure WorkingSet where
  heapBuffer : UInt64
  memorySize : UInt64
  deriving DecidableEq, Repr

/-- The working set of the node with a number, in a memory of `total` bytes. -/
def WorkingSet.ofNode (index : Nat) (total : UInt64) : Except BuildError WorkingSet :=
  let offset := index * workingSetStride
  if offset < total.toNat then
    .ok ⟨UInt64.ofNat offset, total - UInt64.ofNat offset⟩
  else .error (.configuration (.workingSetOutside index total))

/-- The arguments of one processing node: the common ones, then the number of the node. -/
def nodeArguments (common : String) (index : Nat) : String :=
  if common.isEmpty then toString index else common ++ " " ++ toString index

/-- The checks that need no partition of the address space. -/
def Settings.check (settings : Settings) : Except BuildError Unit :=
  if settings.memory.nodes = 0 then .error (.configuration .noMemoryNodes)
  else if settings.memory.totalBytes = 0 then .error (.configuration .noMemory)
  else if settings.compute.processingNodes = 0 then .error (.configuration .noProcessingNodes)
  else if settings.compute.cores = 0 then .error (.configuration .noCores)
  else
    match settings.compute.workload.filter fun name => name.toList.any Text.isBlank with
    | some name => .error (.configuration (.blankInWorkload name))
    | none =>
      (WorkingSet.ofNode (settings.compute.processingNodes.toNat - 1)
        settings.memory.totalBytes).map fun _ => ()

end MemoryFabric

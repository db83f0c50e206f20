import MemoryFabric.Fabric.Error
import MemoryFabric.SortedMap

/-!
# Port allocation

An allocator issues numbered ports of one component.  Numbers are issued from the lowest free one upwards,
so that the same sequence of requests always gets the same names; a particular number can be reserved, but
only once.
-/

namespace MemoryFabric

set_option autoImplicit false

/-- The numbers issued for one component. -/
structure PortAllocator where
  component : String
  stem : String
  issued : SortedMap Nat Unit
  deriving DecidableEq

namespace PortAllocator

/-- An allocator that has issued nothing. -/
def empty (component stem : String) : PortAllocator := ⟨component, stem, ∅⟩

/-- The port of a number. -/
def port (allocator : PortAllocator) (index : Nat) : PortId :=
  ⟨allocator.component, allocator.stem ++ toString index⟩

/-- The lowest number from `next` on that is not in an increasing list. -/
def lowestFree (next : Nat) : List Nat → Nat
  | [] => next
  | index :: rest => if index = next then lowestFree (next + 1) rest else next

/-- Record a number as issued. -/
def issue (allocator : PortAllocator) (index : Nat) : PortAllocator :=
  { allocator with issued := allocator.issued.insert index () }

/-- Issue the lowest free number. -/
def allocate (allocator : PortAllocator) : PortId × PortAllocator :=
  let index := lowestFree 0 (allocator.issued.toList.map Prod.fst)
  (allocator.port index, allocator.issue index)

/-- Issue a particular number, unless it has been issued before. -/
def allocateAt (allocator : PortAllocator) (index : Nat) :
    Except BuildError (PortId × PortAllocator) :=
  let port := allocator.port index
  if allocator.issued.contains index then .error (.wiring port .allocatedTwice)
  else .ok (port, allocator.issue index)

/-- Issue the given number of lowest free numbers. -/
def allocateMany (allocator : PortAllocator) : Nat → List PortId × PortAllocator
  | 0 => ([], allocator)
  | count + 1 =>
    let (port, allocator) := allocator.allocate
    let (ports, allocator) := allocateMany allocator count
    (port :: ports, allocator)

/-- How many numbers have been issued. -/
def allocatedCount (allocator : PortAllocator) : Nat := allocator.issued.size

end PortAllocator

/-! ## The ports of a fabric -/

/-- The ports of the shared bus that face the processing nodes. -/
def busPorts (bus : String) (nodes : Nat) : Except BuildError (List PortId) :=
  if nodes = 0 then .error (.configuration .noProcessingNodes)
  else .ok ((PortAllocator.empty bus "high_network_").allocateMany nodes).1

/-- The ports of the router: one towards the processing nodes, then one for each memory node. -/
structure RouterPorts where
  uplink : PortId
  memory : List PortId
  deriving DecidableEq, Repr

namespace RouterPorts

/-- All ports, the uplink first. -/
def toList (ports : RouterPorts) : List PortId := ports.uplink :: ports.memory

/-- The number of ports. -/
def count (ports : RouterPorts) : Nat := 1 + ports.memory.length

/-- The ports of a router for a number of memory nodes. -/
def ofMemoryNodes (router : String) (nodes : Nat) : Except BuildError RouterPorts :=
  if nodes = 0 then .error (.configuration .nothingToRoute)
  else do
    let (uplink, allocator) ← (PortAllocator.empty router "port").allocateAt 0
    return ⟨uplink, (allocator.allocateMany nodes).1⟩

end RouterPorts

end MemoryFabric

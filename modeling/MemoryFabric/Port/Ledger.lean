import MemoryFabric.Fabric.Error
import MemoryFabric.SortedMap

/-!
# The wiring ledger

A ledger holds the ports that a build has to connect, each with the number of times that it has been
connected.  At the end every port must have been connected exactly once.  The ledger goes on counting
after an error.
-/

namespace MemoryFabric

set_option autoImplicit false

/-- How often each expected port has been connected. -/
structure WiringLedger where
  counts : SortedMap PortId Nat
  deriving DecidableEq

namespace WiringLedger

/-- The ledger that expects nothing. -/
def empty : WiringLedger := ⟨∅⟩

/-- Expect a port.  A port that was expected before is an error; its count starts again. -/
def expect (ledger : WiringLedger) (port : PortId) : Except BuildError Unit × WiringLedger :=
  let known := ledger.counts.contains port
  (if known then .error (.wiring port .allocatedTwice) else .ok (),
    ⟨ledger.counts.insert port 0⟩)

/-- Record a connection.  It must be the first one of an expected port. -/
def bind (ledger : WiringLedger) (port : PortId) : Except BuildError Unit × WiringLedger :=
  match ledger.counts.get? port with
  | none => (.error (.wiring port .neverAllocated), ledger)
  | some count =>
    (if count = 0 then .ok () else .error (.wiring port (.connectedTimes (count + 1))),
      ⟨ledger.counts.insert port (count + 1)⟩)

/-- The first entry that was not connected exactly once. -/
def verifyEntries : List (PortId × Nat) → Except BuildError Unit
  | [] => .ok ()
  | (port, count) :: rest =>
    if count = 1 then verifyEntries rest
    else if count = 0 then .error (.wiring port .unconnected)
    else .error (.wiring port (.connectedTimes count))

/-- Every expected port must have been connected exactly once. -/
def verify (ledger : WiringLedger) : Except BuildError Unit := verifyEntries ledger.counts.toList

/-- The number of expected ports. -/
def allocatedCount (ledger : WiringLedger) : Nat := ledger.counts.size

/-- The number of ports that have been connected at least once. -/
def connectedCount (ledger : WiringLedger) : Nat :=
  ledger.counts.toList.countP fun entry => 0 < entry.2

end WiringLedger

end MemoryFabric

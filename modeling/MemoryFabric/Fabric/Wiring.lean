import MemoryFabric.Fabric.Build
import MemoryFabric.Port.Ledger

/-!
# Wiring

Wiring is building with a ledger at hand: every connection is entered for both of its ports before the
host is asked to make it.  What has been entered stays in the ledger when the wiring stops.
-/

namespace MemoryFabric

set_option autoImplicit false

/-- A build with a ledger. -/
abbrev Wiring (α : Type) := ExceptT (Failure BuildError) (StateT WiringLedger Script) α

/-- A port of a component that is known by its handle and by its name. -/
structure Terminal where
  component : ComponentHandle
  id : PortId
  deriving DecidableEq, Repr

namespace Wiring

/-- A build leaves the ledger alone. -/
def ofBuild {α : Type} (build : Build α) : Wiring α :=
  ExceptT.mk fun ledger => do return (← build.run, ledger)

/-- Change the ledger. -/
def ofLedger (change : WiringLedger → Except BuildError Unit × WiringLedger) : Wiring Unit :=
  ExceptT.mk fun ledger =>
    let (result, ledger) := change ledger
    return (Attempt.reporting result, ledger)

/-- Expect a port. -/
def expect (port : PortId) : Wiring Unit := ofLedger fun ledger => ledger.expect port

/-- Expect ports, from the first to the last. -/
def expectAll : List PortId → Wiring Unit
  | [] => return ()
  | port :: rest => do
    expect port
    expectAll rest

/-- Record a connection of a port. -/
def bind (port : PortId) : Wiring Unit := ofLedger fun ledger => ledger.bind port

/-- Every expected port must have been connected exactly once. -/
def verify : Wiring Unit := ofLedger fun ledger => (ledger.verify, ledger)

/-- Connect two ports by a new link, with the same latency on both sides. -/
def connect (name : String) (a b : Terminal) (latency : Latency) : Wiring Unit := do
  bind a.id
  bind b.id
  ofBuild do
    let link ← Build.createLink name
    Build.connect link ⟨a.component, a.id.port, latency⟩ ⟨b.component, b.id.port, latency⟩

/-- Wire with a ledger and give the ledger afterwards. -/
def runWith {α : Type} (wiring : Wiring α) (ledger : WiringLedger) : Build (α × WiringLedger) :=
  ExceptT.mk do
    let (result, ledger) ← wiring.run ledger
    return result.map fun value => (value, ledger)

end Wiring

end MemoryFabric

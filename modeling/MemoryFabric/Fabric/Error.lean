import MemoryFabric.Address.Interleave
import MemoryFabric.Configuration.Layer
import MemoryFabric.Fault
import MemoryFabric.Host.Error
import MemoryFabric.Port.Name

/-!
# Build errors

A build stops at its first error.  An error has one of four classes: the configuration asks for something
that cannot be built, the address ranges of the nodes leave a hole or overlap, a port is not connected
exactly once, or the host refuses a call.  Each class is a type of causes; the wording of a cause is in
its `detail` and nowhere else.
-/

namespace MemoryFabric

set_option autoImplicit false

/-- What cannot be built. -/
inductive ConfigurationError where
  | reversedRange (first last : UInt64)
  | choice (cause : ChoiceError)
  | setting (cause : SettingError)
  | unreadable (path : String)
  | noMemoryNodes
  | noMemory
  | noProcessingNodes
  | noCores
  | blankInWorkload (name : String)
  /-- Several nodes and no interleaving. -/
  | ambiguousRouting (nodes : Nat)
  | tooManyNodes (nodes : Nat) (granule total : UInt64)
  | workingSetOutside (index : Nat) (total : UInt64)
  | nothingToRoute
  | unknownMemoryNode (name : String)
  /-- A cause known by its text only. -/
  | stated (detail : String)
  deriving Repr

/-- What went wrong. -/
def ConfigurationError.detail : ConfigurationError → String
  | .reversedRange first last =>
    s!"Address range end {Text.hexadecimal last} is below start {Text.hexadecimal first}"
  | .choice cause => cause.detail
  | .setting cause => cause.detail
  | .unreadable path => s!"Unable to read {path}"
  | .noMemoryNodes => "Node count must be at least 1"
  | .noMemory => "Total memory size must be non-zero"
  | .noProcessingNodes => "A compute cluster must host at least 1 processing node"
  | .noCores => "Each processing node needs at least 1 core"
  | .blankInWorkload name => s!"Workload name '{name}' must not contain whitespace"
  | .ambiguousRouting nodes =>
    s!"Interleave policy 'none' requires exactly 1 node but {nodes} were requested " ++
      "(ambiguous routing)"
  | .tooManyNodes nodes granule total =>
    s!"{nodes} nodes with a {Text.hexadecimal granule} byte granule need more than the " ++
      s!"{Text.hexadecimal total} bytes of memory"
  | .workingSetOutside index total =>
    s!"Processing node {index} working set does not fit in {Text.hexadecimal total} bytes"
  | .nothingToRoute => "The router needs at least 1 memory node to serve"
  | .unknownMemoryNode name => s!"No memory node called '{name}'"
  | .stated detail => detail

/-- Why the descriptors of the nodes do not share out the address space. -/
inductive PartitionError where
  | noDescriptors
  /-- The descriptor at a position is for another node. -/
  | misplaced (position node : Nat)
  /-- The descriptor at a position has another interleave than the first. -/
  | disagreement (position : Nat)
  | zeroGranule (nodes : Nat)
  | wrongStride (interleave : Interleave) (nodes : Nat)
  | pastEnd (node : Nat) (range : AddressRange) (last : UInt64)
  | misaligned (node : Nat) (range : AddressRange) (first : UInt64)
  /-- An address goes to a node whose range does not hold it. -/
  | stray (address : UInt64) (node : Nat) (range : AddressRange)
  /-- A range begins inside the one before it. -/
  | overlap (before : Option Nat) (node : Nat) (range : AddressRange)
  /-- Nobody owns the addresses in front of a node's range. -/
  | hole (before : Option Nat) (node : Nat) (first last : UInt64)
  /-- Nobody owns the addresses behind the last range. -/
  | openEnd (before : Option Nat) (first last : UInt64)
  /-- A cause known by its text only. -/
  | stated (nodes : List Nat) (detail : String)
  deriving DecidableEq, Repr

namespace PartitionError

/-- The nodes at fault. -/
def nodes : PartitionError → List Nat
  | .noDescriptors => []
  | .misplaced position node => [position, node]
  | .disagreement position => [0, position]
  | .zeroGranule count => List.range count
  | .wrongStride _ count => List.range count
  | .pastEnd node _ _ => [node]
  | .misaligned node _ _ => [node]
  | .stray _ node _ => [node]
  | .overlap before node _ => before.toList ++ [node]
  | .hole before node _ _ => before.toList ++ [node]
  | .openEnd before _ _ => before.toList
  | .stated nodes _ => nodes

/-- What went wrong. -/
def detail : PartitionError → String
  | .noDescriptors => "no node descriptors to decode with"
  | .misplaced position node => s!"descriptor {position} is for node {node}"
  | .disagreement _ => "nodes disagree on the interleave granule/stride"
  | .zeroGranule _ => "interleave granule is zero"
  | .wrongStride interleave count =>
    s!"stride {Text.hexadecimal interleave.stride} is not granule " ++
      s!"{Text.hexadecimal interleave.granule} x {count} nodes"
  | .pastEnd node range last =>
    s!"node {node} range {range.text} extends past the last address {Text.hexadecimal last}"
  | .misaligned node range first =>
    s!"node {node} range {range.text} does not start at its first granule {Text.hexadecimal first}"
  | .stray address node range =>
    s!"address {Text.hexadecimal address} decodes to node {node} outside its range {range.text}"
  | .overlap _ _ range => s!"range {range.text} overlaps at {Text.hexadecimal range.first}"
  | .hole _ _ first last =>
    s!"addresses [{Text.hexadecimal first}, {Text.hexadecimal last}] are not owned"
  | .openEnd _ first last =>
    s!"addresses from {Text.hexadecimal first} to {Text.hexadecimal last} are not owned"
  | .stated _ detail => detail

end PartitionError

/-- What is wrong with the connections of a port. -/
inductive WiringError where
  | allocatedTwice
  | neverAllocated
  | connectedTimes (count : Nat)
  | unconnected
  /-- A cause known by its text only. -/
  | stated (detail : String)
  deriving DecidableEq, Repr

/-- What went wrong. -/
def WiringError.detail : WiringError → String
  | .allocatedTwice => "allocated twice"
  | .neverAllocated => "connected but never allocated"
  | .connectedTimes count => s!"connected {count} times"
  | .unconnected => "left unconnected"
  | .stated detail => detail

/-- Why a build stops. -/
inductive BuildError where
  | configuration (cause : ConfigurationError)
  | partition (cause : PartitionError)
  | wiring (port : PortId) (cause : WiringError)
  | host (cause : HostError)
  deriving Repr

namespace BuildError

/-- The message without its class. -/
def detail : BuildError → String
  | .configuration cause => cause.detail
  | .partition cause => cause.detail
  | .wiring _ cause => cause.detail
  | .host cause => cause.detail

/-- Node numbers between square brackets. -/
def nodeList (nodes : List Nat) : String :=
  "[" ++ String.intercalate ", " (nodes.map toString) ++ "]"

/-- The whole message. -/
def message : BuildError → String
  | .configuration cause => "Configuration error: " ++ cause.detail
  | .partition cause => s!"Partition inconsistency (nodes {nodeList cause.nodes}): {cause.detail}"
  | .wiring port cause => s!"Wiring inconsistency at {port.text}: {cause.detail}"
  | .host cause => "Host " ++ cause.message

end BuildError

/-- A step of a build: it may stop with an error or fault. -/
abbrev Built (α : Type) := Attempt BuildError α

namespace Built

/-- Stop with a configuration error. -/
def refuse {α : Type} (cause : ConfigurationError) : Built α := Attempt.report (.configuration cause)

end Built

/-- The range between two addresses. -/
def AddressRange.between (first last : UInt64) : Built AddressRange :=
  match AddressRange.ofBounds? first last with
  | some range => .ok range
  | none => Built.refuse (.reversedRange first last)

end MemoryFabric

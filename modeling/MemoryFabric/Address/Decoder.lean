import MemoryFabric.Fabric.Error

/-!
# Address decoders

A decoder resolves an address to the memory node that owns it.  Without interleaving the owner is the
first node whose range holds the address.  With interleaving the granule number decides, modulo the number
of nodes; an address that falls to a node whose range does not hold it has no owner.
-/

namespace MemoryFabric

set_option autoImplicit false

/-- The nodes' ranges, in the order of the nodes, with what is common to all of them. -/
structure AddressDecoder where
  total : UInt64
  interleave : Option Interleave
  ranges : List AddressRange
  deriving DecidableEq, Repr

namespace AddressDecoder

/-- Descriptors must stand in the order of their nodes and agree on the interleave. -/
def checkOrder (interleave : Option Interleave) :
    Nat → List NodeDescriptor → Except PartitionError Unit
  | _, [] => .ok ()
  | position, descriptor :: rest =>
    if descriptor.node ≠ position then .error (.misplaced position descriptor.node)
    else if descriptor.interleave ≠ interleave then .error (.disagreement position)
    else checkOrder interleave (position + 1) rest

/-- A granule must not be empty, and the stride must be one granule for each node. -/
def checkInterleave (nodes : Nat) : Option Interleave → Except PartitionError Unit
  | none => .ok ()
  | some interleave =>
    if interleave.granule = 0 then .error (.zeroGranule nodes)
    else if interleave.granule.toNat * nodes ≠ interleave.stride.toNat then
      .error (.wrongStride interleave nodes)
    else .ok ()

/-- The decoder of a list of descriptors. -/
def ofDescriptors (total : UInt64) (descriptors : List NodeDescriptor) :
    Except BuildError AddressDecoder :=
  if total = 0 then .error (.configuration .noMemory)
  else
    match descriptors with
    | [] => .error (.partition .noDescriptors)
    | first :: _ =>
      Except.mapError .partition do
        checkOrder first.interleave 0 descriptors
        checkInterleave descriptors.length first.interleave
        return ⟨total, first.interleave, descriptors.map NodeDescriptor.range⟩

/-- The number of nodes. -/
def nodeCount (decoder : AddressDecoder) : Nat := decoder.ranges.length

/-- The node that owns an address; `none` for an address without an owner. -/
def decode (decoder : AddressDecoder) (address : UInt64) : Except Fault (Option Nat) :=
  if decoder.total ≤ address then .ok none
  else
    match decoder.interleave with
    | none => .ok (decoder.ranges.findIdx? (·.contains address))
    | some interleave => do
      let turn ← Word.div address interleave.granule
      let node ← Word.rem turn (← Word.fit decoder.nodeCount)
      match decoder.ranges[node.toNat]? with
      | none => .error .outOfBounds
      | some range => .ok (if range.contains address then some node.toNat else none)

/-- The last address of the space that decodes to a node, when turns are taken by granules. -/
def lastOwned (decoder : AddressDecoder) (node : Nat) (granule : UInt64) :
    Except Fault (Option UInt64) := do
  let last ← Word.sub decoder.total 1
  let node ← Word.fit node
  let lastTurn ← Word.div last granule
  if lastTurn < node then return none
  let turn ← Word.sub lastTurn (← Word.rem (← Word.sub lastTurn node) (← Word.fit decoder.nodeCount))
  let bound := Word.saturatingMul (← Word.add turn 1) granule
  return some (min (← Word.sub bound 1) last)

end AddressDecoder

end MemoryFabric

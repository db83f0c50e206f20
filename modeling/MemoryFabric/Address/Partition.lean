import MemoryFabric.Fabric.Error

/-!
# Partitions of the address space

The address space of a fabric, sharing out `total` bytes to a number of memory nodes.  The range of an
interleaved node is its envelope: it begins with the node's first granule and ends where the node's last
granule ends, provided that every node has the same number of granules.  Whether the result covers the
whole space is checked elsewhere.
-/

namespace MemoryFabric

set_option autoImplicit false

/-- The descriptor of one node out of `nodes` that take turns of `granule` bytes. -/
def interleavedDescriptor (total granule stride : UInt64) (nodes node : Nat) :
    Built NodeDescriptor := do
  let first ← Attempt.checked do Word.mul (← Word.fit node) granule
  let last ← Attempt.checked do
    Word.sub (← Word.sub total (← Word.mul (← Word.fit (nodes - node - 1)) granule)) 1
  let range ← AddressRange.between first last
  return ⟨node, range, some ⟨granule, stride⟩⟩

/-- One descriptor per node, in the order of the nodes. -/
def partition (total : UInt64) (nodes : Nat) (policy : InterleavePolicy) :
    Built (List NodeDescriptor) :=
  if nodes = 0 then Built.refuse .noMemoryNodes
  else if total = 0 then Built.refuse .noMemory
  else
    match policy.granule? with
    | none =>
      if nodes ≠ 1 then Built.refuse (.ambiguousRouting nodes)
      else do
        let last ← Attempt.checked (Word.sub total 1)
        let range ← AddressRange.between 0 last
        return [⟨0, range, none⟩]
    | some granule =>
      if granule.toNat * nodes ≤ total.toNat then
        let stride := UInt64.ofNat (granule.toNat * nodes)
        (List.range nodes).mapM (interleavedDescriptor total granule stride nodes)
      else Built.refuse (.tooManyNodes nodes granule total)

end MemoryFabric

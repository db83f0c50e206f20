import MemoryFabric.Address.Decoder

/-!
# Coverage of the address space

The check that every address has exactly one owner.  With interleaving it is enough to look at the ends
of the envelopes; without, the ranges must follow one another without a hole when they are sorted by their
first addresses.
-/

namespace MemoryFabric

set_option autoImplicit false

namespace Coverage

/-- No range may go past the last address. -/
def checkEnds (last : UInt64) : List NodeDescriptor → Except PartitionError Unit
  | [] => .ok ()
  | descriptor :: rest =>
    if last < descriptor.range.last then .error (.pastEnd descriptor.node descriptor.range last)
    else checkEnds last rest

/-- Each envelope must begin with the node's first granule and hold the last address that decodes to
the node. -/
def checkEnvelopes (decoder : AddressDecoder) (granule : UInt64) :
    List NodeDescriptor → Attempt PartitionError Unit
  | [] => .ok ()
  | descriptor :: rest => do
    let first ← Attempt.checked do Word.mul (← Word.fit descriptor.node) granule
    if descriptor.range.first ≠ first then
      Attempt.report (.misaligned descriptor.node descriptor.range first)
    match ← Attempt.checked (decoder.lastOwned descriptor.node granule) with
    | some address =>
      if descriptor.range.last < address then
        Attempt.report (.stray address descriptor.node descriptor.range)
    | none => pure ()
    checkEnvelopes decoder granule rest

/-- Follow ranges one after another from the address `next`; gives the address behind the last range and
its node. -/
def follow (next : UInt64) (before : Option Nat) :
    List NodeDescriptor → Attempt PartitionError (UInt64 × Option Nat)
  | [] => .ok (next, before)
  | descriptor :: rest =>
    if descriptor.range.first = next then
      follow (Word.wrappingSucc descriptor.range.last) (some descriptor.node) rest
    else if descriptor.range.first < next then
      Attempt.report (.overlap before descriptor.node descriptor.range)
    else do
      let last ← Attempt.checked (Word.sub descriptor.range.first 1)
      Attempt.report (.hole before descriptor.node next last)

/-- Descriptors by the first addresses of their ranges; equal ones keep their order. -/
def byFirst (descriptors : List NodeDescriptor) : List NodeDescriptor :=
  descriptors.mergeSort fun a b => a.range.first ≤ b.range.first

/-- The ranges must follow one another over the whole space. -/
def checkTiling (total last : UInt64) (descriptors : List NodeDescriptor) :
    Attempt PartitionError Unit := do
  let (next, before) ← follow 0 none (byFirst descriptors)
  if next ≠ total then Attempt.report (.openEnd before next last)

end Coverage

/-- The decoder of a list of descriptors that give every address exactly one owner. -/
def verifyCoverage (total : UInt64) (descriptors : List NodeDescriptor) : Built AddressDecoder := do
  let decoder ← Attempt.reporting (AddressDecoder.ofDescriptors total descriptors)
  let last ← Attempt.checked (Word.sub total 1)
  Except.mapError (Failure.map .partition) do
    Attempt.reporting (Coverage.checkEnds last descriptors)
    match decoder.interleave with
    | some interleave => Coverage.checkEnvelopes decoder interleave.granule descriptors
    | none => Coverage.checkTiling total last descriptors
  return decoder

end MemoryFabric

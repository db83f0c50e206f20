import MemoryFabric.Word

/-!
# Link latencies

The latency of one side of a link, in picoseconds.
-/

namespace MemoryFabric

set_option autoImplicit false

/-- A latency. -/
structure Latency where
  picoseconds : UInt64
  deriving DecidableEq, Repr

namespace Latency

/-- A latency in nanoseconds; a fault when its picoseconds are no word. -/
def ofNanoseconds (nanoseconds : UInt64) : Except Fault Latency :=
  (Word.mul nanoseconds 1000).map Latency.mk

/-- Whole nanoseconds when there are any, otherwise picoseconds. -/
def text (latency : Latency) : String :=
  let picoseconds := latency.picoseconds.toNat
  if picoseconds ≠ 0 ∧ picoseconds % 1000 = 0 then s!"{picoseconds / 1000}ns"
  else s!"{picoseconds}ps"

end Latency

end MemoryFabric

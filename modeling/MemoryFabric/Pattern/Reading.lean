import MemoryFabric.Pattern.Meaning
import MemoryFabric.Pattern.PatternReader
import MemoryFabric.Pattern.Size

/-!
# Patterns from texts

A text is a pattern when it can be read as one, when its parts have a meaning, and when the machine for it is
not too large.
-/

namespace MemoryFabric.Pattern

set_option autoImplicit false

/-- The pattern of a text. -/
def read? (text : String) : Option Pattern := do
  let written ← WrittenPattern.read? text
  let (pattern, _) ← written.meaning? PatternOptions.initial
  if pattern.machineSize + frameSize ≤ largestMachine then return pattern else none

end MemoryFabric.Pattern

import MemoryFabric.Text.Hexadecimal
import MemoryFabric.Word

/-!
# Address ranges

A range of byte addresses, both ends included.  A range is never empty, so the whole 64-bit space is a
range although the number of its bytes is no word.
-/

namespace MemoryFabric

set_option autoImplicit false

/-- The addresses from `first` to `last`. -/
structure AddressRange where
  first : UInt64
  last : UInt64
  ordered : first ≤ last
  deriving DecidableEq, Repr

namespace AddressRange

/-- The range between two addresses; `none` when they are in the wrong order. -/
def ofBounds? (first last : UInt64) : Option AddressRange :=
  if ordered : first ≤ last then some ⟨first, last, ordered⟩ else none

/-- The number of bytes, or the largest word for the whole 64-bit space. -/
def span (range : AddressRange) : UInt64 := Word.saturatingSucc (range.last - range.first)

/-- Whether an address lies in the range. -/
def contains (range : AddressRange) (address : UInt64) : Bool :=
  range.first ≤ address && address ≤ range.last

instance : Membership UInt64 AddressRange where
  mem range address := range.first ≤ address ∧ address ≤ range.last

/-- The range as messages write it. -/
def text (range : AddressRange) : String :=
  "[" ++ Text.hexadecimal range.first ++ ", " ++ Text.hexadecimal range.last ++ "]"

@[simp]
theorem contains_iff_mem {range : AddressRange} {address : UInt64} :
    range.contains address = true ↔ address ∈ range := by
  simp [contains, Membership.mem]

end AddressRange

end MemoryFabric

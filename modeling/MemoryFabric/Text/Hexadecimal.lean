/-!
# Hexadecimal text

How addresses and sizes are written in hexadecimal: a marker `0x`, then the digits without leading
zeros, in lower case in messages and in upper case in the log.
-/

namespace MemoryFabric.Text

set_option autoImplicit false

/-- A word in hexadecimal with lower-case digits. -/
def hexadecimal (word : UInt64) : String :=
  "0x" ++ String.ofList (Nat.toDigits 16 word.toNat)

/-- A word in hexadecimal with upper-case digits. -/
def upperHexadecimal (word : UInt64) : String :=
  "0x" ++ String.ofList ((Nat.toDigits 16 word.toNat).map Char.toUpper)

/-- The value of a hexadecimal digit of either case. -/
def hexDigit? (character : Char) : Option Nat :=
  if '0' ≤ character ∧ character ≤ '9' then some (character.toNat - '0'.toNat)
  else if 'a' ≤ character ∧ character ≤ 'f' then some (character.toNat - 'a'.toNat + 10)
  else if 'A' ≤ character ∧ character ≤ 'F' then some (character.toNat - 'A'.toNat + 10)
  else none

end MemoryFabric.Text

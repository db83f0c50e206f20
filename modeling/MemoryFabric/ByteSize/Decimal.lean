import MemoryFabric.Number.Rounding

/-!
# Bounded decimals

Non-negative decimal numbers with at most 28 decimal places whose digits, read as one whole number, stay
below `2 ^ 96`.  A result with more digits loses its last decimals, rounded to the nearest and a half to the
even neighbour.
-/

namespace MemoryFabric.ByteSize

set_option autoImplicit false

/-- The number `digits / 10 ^ places`. -/
structure Decimal where
  digits : Nat
  places : Nat
  deriving DecidableEq, Repr

namespace Decimal

/-- The bound on the digits. -/
def digitBound : Nat := 0x1000000000000000000000000

/-- The largest number of decimal places. -/
def mostPlaces : Nat := 28

/-- Drop the fewest decimals that bring the digits below the bound; `none` when dropping all of them
does not. -/
def fit? (digits : Nat) (places : Nat) : Option Decimal :=
  (List.range (places + 1)).findSome? fun dropped =>
    let kept := Number.nearestQuotient digits (Nat.pow 10 dropped)
    if kept < digitBound then some ⟨kept, places - dropped⟩ else none

/-- A digit more in front of the point. -/
def pushDigit? (value : Decimal) (digit : Nat) : Option Decimal :=
  let digits := value.digits * 10 + digit
  if digits < digitBound then some ⟨digits, value.places⟩ else none

/-- A digit at the given decimal place behind all digits so far; a zero changes nothing. -/
def addAt? (value : Decimal) (digit place : Nat) : Option Decimal :=
  if mostPlaces < place then none
  else if digit = 0 then some value
  else if value.digits = 0 then some ⟨digit, place⟩
  else fit? (value.digits * Nat.pow 10 (place - value.places) + digit) place

/-- The product with a natural number. -/
def scale? (value : Decimal) (factor : Nat) : Option Decimal :=
  fit? (value.digits * factor) value.places

/-- The least natural number that is not smaller. -/
def roundUp (value : Decimal) : Nat := Number.quotientUp value.digits (Nat.pow 10 value.places)

/-- The number in positional notation, with all its decimal places. -/
def text (value : Decimal) : String :=
  let digits := Nat.toDigits 10 value.digits
  if value.places = 0 then String.ofList digits
  else
    let digits := List.replicate (value.places + 1 - digits.length) '0' ++ digits
    String.ofList (digits.take (digits.length - value.places)) ++ "." ++
      String.ofList (digits.drop (digits.length - value.places))

end Decimal

end MemoryFabric.ByteSize

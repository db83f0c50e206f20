import MemoryFabric.Number.Binary64

/-!
# The shortest decimal of a number

The fewest significant digits that read back as a given positive number, and of the decimals with that
many digits the nearest one; where two are equally near, a rule says which.  For one digit, two digits and so on, the two neighbours of the number on the
decimal grid are read back; the first grid with a hit gives the answer.
-/

namespace MemoryFabric.Binary64

set_option autoImplicit false

/-- A positive number `significand · 2 ^ exponent` as a quotient of natural numbers. -/
def ratio (significand : Nat) (exponent : Int) : Nat × Nat :=
  if 0 ≤ exponent then (significand * Nat.pow 2 exponent.toNat, 1)
  else (significand, Nat.pow 2 (-exponent).toNat)

/-- Whether `numerator / denominator < 10 ^ power`. -/
def belowPowerOfTen (numerator denominator : Nat) (power : Int) : Bool :=
  if 0 ≤ power then numerator < denominator * Nat.pow 10 power.toNat
  else numerator * Nat.pow 10 (-power).toNat < denominator

/-- The least power of ten above `numerator / denominator`, searched upwards from `power`. -/
def powerAbove (numerator denominator : Nat) : Nat → Int → Int
  | 0, power => power
  | steps + 1, power =>
    if belowPowerOfTen numerator denominator power then power
    else powerAbove numerator denominator steps (power + 1)

/-- The decimal `digits · 10 ^ power` with the given number of digits that reads back, if there is one;
of two such neighbours the nearer one, of two equally near ones as the rule says. -/
def neighbour? (half : Number.HalfRule) (significand : Nat) (exponent : Int) (power : Int) :
    Option Nat :=
  let (numerator, denominator) := ratio significand exponent
  let (numerator, denominator) :=
    if 0 ≤ power then (numerator, denominator * Nat.pow 10 power.toNat)
    else (numerator * Nat.pow 10 (-power).toNat, denominator)
  let below := numerator / denominator
  let readsBack (digits : Nat) : Bool :=
    ofDecimal false digits power = .finite false significand exponent
  let nearest := Number.roundedQuotient half numerator denominator
  let other := if nearest = below then below + 1 else below
  if readsBack nearest then some nearest
  else if readsBack other then some other
  else none

/-- Try grids of more and more digits. -/
def shortestFrom (half : Number.HalfRule) (significand : Nat) (exponent above : Int) :
    Nat → Nat → Nat × Int
  | 0, count => ((neighbour? half significand exponent (above - count)).getD 0, above - count)
  | more + 1, count =>
    match neighbour? half significand exponent (above - count) with
    | some digits => (digits, above - count)
    | none => shortestFrom half significand exponent above more (count + 1)

/-- Divide out trailing zeros, at most as many as the fuel. -/
def dropZeros : Nat → Nat × Int → Nat × Int
  | 0, decimal => decimal
  | steps + 1, (digits, power) =>
    if digits % 10 = 0 ∧ digits ≠ 0 then dropZeros steps (digits / 10, power + 1)
    else (digits, power)

/-- The shortest decimal, as digits and a power of ten, of a positive number. -/
def shortest (half : Number.HalfRule) (significand : Nat) (exponent : Int) : Nat × Int :=
  let (numerator, denominator) := ratio significand exponent
  let estimate : Int := ((numerator.log2 : Int) - denominator.log2) * 30103 / 100000 - 1
  let above := powerAbove numerator denominator 5 estimate
  dropZeros 17 (shortestFrom half significand exponent above 16 1)

end MemoryFabric.Binary64

/-!
# Rounding quotients

Quotients of natural numbers rounded to the nearest whole number and rounded up.
-/

namespace MemoryFabric.Number

set_option autoImplicit false

/-- Where a half goes. -/
inductive HalfRule where
  | toEven
  | up
  deriving DecidableEq, Repr

/-- The neighbour that half of the way above a natural number goes to. -/
def HalfRule.choose (quotient : Nat) : HalfRule → Nat
  | .toEven => quotient + quotient % 2
  | .up => quotient + 1

/-- `numerator / denominator`, rounded to the nearest natural number, a half as the rule says. -/
def roundedQuotient (half : HalfRule) (numerator denominator : Nat) : Nat :=
  let quotient := numerator / denominator
  let twice := 2 * (numerator % denominator)
  if twice < denominator then quotient
  else if twice = denominator then half.choose quotient
  else quotient + 1

/-- `numerator / denominator`, rounded to the nearest natural number, a half to the even neighbour. -/
def nearestQuotient (numerator denominator : Nat) : Nat :=
  roundedQuotient .toEven numerator denominator

/-- `numerator / denominator`, rounded up. -/
def quotientUp (numerator denominator : Nat) : Nat :=
  (numerator + denominator - 1) / denominator

end MemoryFabric.Number

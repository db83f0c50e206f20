import MemoryFabric.Number.Rounding

/-!
# Binary64 numbers

The numbers of the 64-bit binary floating-point format, as exact data: a sign, a significand and a power
of two.  A decimal is read as the nearest such number, and of two equally near ones as the one with an
even significand.  All arithmetic is on natural numbers.
-/

namespace MemoryFabric

set_option autoImplicit false

/-- A binary64 number.  `finite negative significand exponent` stands for
`± significand · 2 ^ exponent`. -/
inductive Binary64 where
  | finite (negative : Bool) (significand : Nat) (exponent : Int)
  | infinite (negative : Bool)
  | nan
  deriving DecidableEq, Repr

namespace Binary64

open Number (nearestQuotient)

/-- The exponent of the smallest positive number. -/
def leastExponent : Int := -1074

/-- The exponent of the largest finite number. -/
def greatestExponent : Int := 971

/-- The number of significands of normal length. -/
def significandBound : Nat := 0x20000000000000

/-- `numerator / denominator / 2 ^ exponent`, rounded to the nearest natural number. -/
def scaledQuotient (numerator denominator : Nat) (exponent : Int) : Nat :=
  if 0 ≤ exponent then nearestQuotient numerator (denominator * Nat.pow 2 exponent.toNat)
  else nearestQuotient (numerator * Nat.pow 2 (-exponent).toNat) denominator

/-- Whether `numerator / denominator / 2 ^ exponent` is below `2 ^ 52`. -/
def isShortAt (numerator denominator : Nat) (exponent : Int) : Bool :=
  if 0 ≤ exponent then numerator < denominator * Nat.pow 2 exponent.toNat * 0x10000000000000
  else numerator * Nat.pow 2 (-exponent).toNat < denominator * 0x10000000000000

/-- Round at the given exponent; a significand that grows to 54 bits is halved. -/
def roundAt (negative : Bool) (numerator denominator : Nat) (exponent : Int) : Binary64 :=
  let significand := scaledQuotient numerator denominator exponent
  let (significand, exponent) :=
    if significand < significandBound then (significand, exponent)
    else (significand / 2, exponent + 1)
  if exponent ≤ greatestExponent then .finite negative significand exponent
  else .infinite negative

/-- The nearest number to `± numerator / denominator`. -/
def ofRatio (negative : Bool) (numerator denominator : Nat) : Binary64 :=
  if numerator = 0 then .finite negative 0 leastExponent
  else
    let estimate : Int := (numerator.log2 : Int) - denominator.log2 - 52
    let exponent :=
      if isShortAt numerator denominator estimate then estimate - 1 else estimate
    roundAt negative numerator denominator (max exponent leastExponent)

/-- The nearest number to `± digits · 10 ^ exponent`. -/
def ofDecimal (negative : Bool) (digits : Nat) (exponent : Int) : Binary64 :=
  let magnitude : Int := (Nat.toDigits 10 digits).length + exponent
  if digits = 0 ∨ magnitude < -330 then .finite negative 0 leastExponent
  else if 310 < magnitude then .infinite negative
  else if 0 ≤ exponent then ofRatio negative (digits * Nat.pow 10 exponent.toNat) 1
  else ofRatio negative digits (Nat.pow 10 (-exponent).toNat)

/-- Whether the number is neither infinite nor a non-number. -/
def isFinite : Binary64 → Bool
  | .finite _ _ _ => true
  | _ => false

end Binary64

end MemoryFabric

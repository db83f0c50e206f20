import MemoryFabric.Number.Shortest

/-!
# Written numbers

Two written forms of a binary64 number, both with its shortest digits.  Messages write it in positional
notation whatever its size, and of two equally near decimals the larger one.  Settings write it with at least one decimal or with an exponent, so that the
text shows that it is no whole number; very large and very small numbers get the exponent, and of two
equally near decimals the even one is written.
-/

namespace MemoryFabric.Binary64

set_option autoImplicit false

/-- Digits with their point after the first `point` of them; missing digits are zeros. -/
def positionalText (digits : List Char) (point : Int) : String :=
  if point ≤ 0 then
    "0." ++ String.ofList (List.replicate (-point).toNat '0' ++ digits)
  else if digits.length ≤ point.toNat then
    String.ofList (digits ++ List.replicate (point.toNat - digits.length) '0')
  else
    String.ofList (digits.take point.toNat) ++ "." ++ String.ofList (digits.drop point.toNat)

/-- Digits in front of an exponent, with a point after the first of several digits. -/
def exponentText (digits : List Char) (point : Int) : String :=
  let mantissa :=
    match digits with
    | [] => "0"
    | [digit] => String.singleton digit
    | digit :: rest => String.singleton digit ++ "." ++ String.ofList rest
  mantissa ++ "e" ++ toString (point - 1)

/-- The number as messages write it. -/
def positional : Binary64 → String
  | .nan => "NaN"
  | .infinite negative => if negative then "-inf" else "inf"
  | .finite negative significand exponent =>
    let sign := if negative then "-" else ""
    if significand = 0 then sign ++ "0"
    else
      let (digits, power) := shortest .up significand exponent
      let digits := Nat.toDigits 10 digits
      sign ++ positionalText digits (digits.length + power)

/-- The number as settings write it. -/
def setting : Binary64 → String
  | .nan => ".nan"
  | .infinite negative => if negative then "-.inf" else ".inf"
  | .finite negative significand exponent =>
    let sign := if negative then "-" else ""
    if significand = 0 then sign ++ "0.0"
    else
      let (digits, power) := shortest .toEven significand exponent
      let digits := Nat.toDigits 10 digits
      let point : Int := digits.length + power
      if 0 ≤ power ∧ point ≤ 16 then sign ++ positionalText digits point ++ ".0"
      else if -5 < point ∧ point ≤ 16 then sign ++ positionalText digits point
      else sign ++ exponentText digits point

/-- The number as a message about an unexpected value at the top of a document writes it. -/
def withPoint (number : Binary64) : String :=
  let text := number.positional
  if number.isFinite && !text.contains '.' then text ++ ".0" else text

end MemoryFabric.Binary64

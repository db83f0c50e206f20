import MemoryFabric.Number.Binary64

/-!
# Number literals

Reading whole numbers and decimal fractions from characters.  A fraction may lack the digits on one side
of its point, and may carry an exponent; the words for infinity and for a non-number are accepted in any
case.
-/

namespace MemoryFabric.Number

set_option autoImplicit false

/-- The value of a digit in a base of at most sixteen. -/
def digit? (base : Nat) (character : Char) : Option Nat :=
  let value :=
    if '0' ≤ character ∧ character ≤ '9' then some (character.toNat - '0'.toNat)
    else if 'a' ≤ character ∧ character ≤ 'f' then some (character.toNat - 'a'.toNat + 10)
    else if 'A' ≤ character ∧ character ≤ 'F' then some (character.toNat - 'A'.toNat + 10)
    else none
  value.filter (· < base)

/-- The value of a run of digits, continuing from `value`. -/
def digitsFrom? (base : Nat) : Nat → List Char → Option Nat
  | value, [] => some value
  | value, character :: rest =>
    match digit? base character with
    | some digit => digitsFrom? base (value * base + digit) rest
    | none => none

/-- The value of a non-empty run of digits. -/
def digits? (base : Nat) (characters : List Char) : Option Nat :=
  if characters.isEmpty then none else digitsFrom? base 0 characters

/-- A natural number; one leading plus is allowed. -/
def natural? (base : Nat) : List Char → Option Nat
  | '+' :: rest => digits? base rest
  | characters => digits? base characters

/-- An integer; one leading sign is allowed. -/
def integer? (base : Nat) : List Char → Option Int
  | '-' :: rest => (digits? base rest).map fun n => -(n : Int)
  | characters => (natural? base characters).map Int.ofNat

/-- A natural number that is a word. -/
def word? (base : Nat) (characters : List Char) : Option UInt64 :=
  (natural? base characters).bind fun n => if n < 0x10000000000000000 then some (UInt64.ofNat n) else none

/-- An integer that is a signed word. -/
def signedWord? (base : Nat) (characters : List Char) : Option Int64 :=
  (integer? base characters).bind fun n =>
    if -0x8000000000000000 ≤ n ∧ n < 0x8000000000000000 then some (Int64.ofInt n) else none

/-- An exponent part: nothing, or a marker and an integer. -/
def exponent? : List Char → Option Int
  | [] => some 0
  | character :: rest => if character = 'e' || character = 'E' then integer? 10 rest else none

/-- An unsigned decimal fraction. -/
def unsignedFraction? (negative : Bool) (characters : List Char) : Option Binary64 :=
  let whole := characters.takeWhile Char.isDigit
  let rest := characters.dropWhile Char.isDigit
  let (fraction, rest) :=
    match rest with
    | '.' :: rest => (rest.takeWhile Char.isDigit, rest.dropWhile Char.isDigit)
    | _ => ([], rest)
  match digits? 10 (whole ++ fraction), exponent? rest with
  | some digits, some exponent => some (.ofDecimal negative digits (exponent - fraction.length))
  | _, _ => none

/-- Numbers that are written as words. -/
def numberWord? (negative : Bool) (characters : List Char) : Option Binary64 :=
  match String.ofList (characters.map Char.toLower) with
  | "inf" | "infinity" => some (.infinite negative)
  | "nan" => some .nan
  | _ => none

/-- A decimal fraction with an optional sign. -/
def fraction? (characters : List Char) : Option Binary64 :=
  let (negative, rest) :=
    match characters with
    | '-' :: rest => (true, rest)
    | '+' :: rest => (false, rest)
    | rest => (false, rest)
  (unsignedFraction? negative rest).or (numberWord? negative rest)

end MemoryFabric.Number

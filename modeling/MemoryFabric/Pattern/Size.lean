import MemoryFabric.Pattern.Pattern

/-!
# The size of patterns

A pattern is matched by a machine whose steps read one byte each, and the machine must not become too large.
Its size is counted in bytes: a step is of 32 bytes, and where the machine can go on in several ways each way
is of four or eight bytes more.  A repetition with bounds is as many copies of what is repeated, so a short
pattern can be too large.

A character beyond seven bits is read in several steps.  A set of characters is cut into blocks that have the
same bytes up to a range for each byte; steps for the first bytes are shared between neighbouring blocks.
-/

namespace MemoryFabric

set_option autoImplicit false

/-! ## Encoded characters -/

/-- The bytes of the code of a character. -/
def bytesOfCode (code : Nat) : List Nat :=
  if code < 0x80 then [code]
  else if code < 0x800 then [0xc0 + code / 0x40, 0x80 + code % 0x40]
  else if code < 0x10000 then
    [0xe0 + code / 0x1000, 0x80 + code / 0x40 % 0x40, 0x80 + code % 0x40]
  else
    [0xf0 + code / 0x40000, 0x80 + code / 0x1000 % 0x40, 0x80 + code / 0x40 % 0x40,
      0x80 + code % 0x40]

/-- The code in front of which a range must be cut: where the codes become longer, around the codes that are
no characters, and where a range of codes is no product of ranges of bytes. -/
def cutOf? (first last : Nat) : Option Nat :=
  let lengths := [0x80, 0x800, 0xd800, 0xe000, 0x10000].find? fun cut => first < cut && cut ≤ last
  let block (size : Nat) : Option Nat :=
    if first / size = last / size then none
    else if first % size ≠ 0 then some ((first / size + 1) * size)
    else if last % size ≠ size - 1 then some (last / size * size)
    else none
  lengths.or <|
    if last < 0x80 then none else (block 0x40).or ((block 0x1000).or (block 0x40000))

/-- The blocks of a range, each with the first and the last value of each byte.  The fuel is for the cuts, of
which there are few in any range. -/
def blocksOfRange : Nat → Nat → Nat → List (List (Nat × Nat))
  | 0, _, _ => []
  | fuel + 1, first, last =>
    match cutOf? first last with
    | some cut => blocksOfRange fuel first (cut - 1) ++ blocksOfRange fuel cut last
    | none =>
      if 0xd800 ≤ first && last < 0xe000 then []
      else [(bytesOfCode first).zip (bytesOfCode last)]

/-- The blocks of a set of characters, in increasing order. -/
def CharacterSet.blocks (set : CharacterSet) : List (List (Nat × Nat)) :=
  set.ranges.flatMap fun range => blocksOfRange 32 range.1 range.2

/-- The number of values at the begin of two lists that are the same. -/
def sharedLength : List (Nat × Nat) → List (Nat × Nat) → Nat
  | a :: rest, b :: rest' => if a = b then sharedLength rest rest' + 1 else 0
  | _, _ => 0

/-- The number of steps for blocks behind a given one. -/
def stepsFrom (before : List (Nat × Nat)) : List (List (Nat × Nat)) → Nat
  | [] => 0
  | block :: rest => block.length - sharedLength before block + stepsFrom block rest

/-- The size of a machine that reads one character of a set.  Characters of seven bits need one step only. -/
def CharacterSet.machineSize (set : CharacterSet) : Nat :=
  match set.onlyCharacter? with
  | some character => 32 * (bytesOfCode character.toNat).length
  | none =>
    if set.isAscii then 64 + 8 * set.ranges.length
    else
      let blocks := set.blocks
      64 + 4 * blocks.length + 32 * stepsFrom [] blocks

/-! ## Patterns -/

namespace Pattern

/-- Whether a pattern selects empty parts only. -/
def isVacuous : Pattern → Bool
  | .empty | .look _ => true
  | .one _ => false
  | .sequence first second => first.isVacuous && second.isVacuous
  | .choice first second => first.isVacuous && second.isVacuous
  | .repetition inner _ most => inner.isVacuous || most = some 0
  | .group inner => inner.isVacuous

/-- Whether a pattern can select an empty part when no condition is in the way. -/
def canBeEmpty : Pattern → Bool
  | .empty | .look _ => true
  | .one _ => false
  | .sequence first second => first.canBeEmpty && second.canBeEmpty
  | .choice first second => first.canBeEmpty || second.canBeEmpty
  | .repetition inner least _ => inner.canBeEmpty || least = 0
  | .group inner => inner.canBeEmpty

/-- The size of the machine for a repetition, by the size of the machine for what is repeated. -/
def repetitionSize (canBeEmpty : Bool) (size : Nat) : Nat → Option Nat → Nat
  | 0, some 0 => 32
  | 1, some 1 => size
  | 0, some 1 => size + 72
  | 0, none => if canBeEmpty then size + 112 else size + 40
  | least, none => least * size + 40
  | least, some most =>
    if least = most then least * size
    else max 32 (least * size) + 32 + (most - least) * (size + 40)

/-- The size of the machine for a pattern. -/
def machineSize : Pattern → Nat
  | .empty => 32
  | .look _ => 32
  | .one members => members.machineSize
  | .sequence first second => first.machineSize + second.machineSize
  | .choice first (.choice second third) =>
    first.machineSize + 4 + (Pattern.choice second third).machineSize
  | .choice first second => first.machineSize + second.machineSize + 72
  | .repetition inner least most =>
    if inner.isVacuous then
      repetitionSize true inner.machineSize (min least 1) (some (min (most.getD 1) 1))
    else repetitionSize inner.canBeEmpty inner.machineSize least most
  | .group inner => inner.machineSize + 64

/-- The size of what every machine has: it looks for the begin of a part and keeps the part. -/
def frameSize : Nat := 208

/-- How large a machine may be. -/
def largestMachine : Nat := 10485760

end Pattern

end MemoryFabric

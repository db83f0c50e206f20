/-!
# Sets of characters

A set of characters is kept as ranges of their codes.  The ranges are in increasing order, and between any
two of them there is a code that is in neither, so a set has one form only.
-/

namespace MemoryFabric

set_option autoImplicit false

/-- A set of characters, as ranges from a first to a last code. -/
structure CharacterSet where
  ranges : List (Nat × Nat)
  deriving DecidableEq, Repr

namespace CharacterSet

/-- The largest code of a character. -/
def lastCode : Nat := 0x10ffff

/-- The set of no characters. -/
def empty : CharacterSet := ⟨[]⟩

/-- The set of all characters. -/
def all : CharacterSet := ⟨[(0, lastCode)]⟩

/-- The characters from a first to a last one. -/
def range (first last : Char) : CharacterSet :=
  if first ≤ last then ⟨[(first.toNat, last.toNat)]⟩ else empty

/-- The set of one character. -/
def single (character : Char) : CharacterSet := ⟨[(character.toNat, character.toNat)]⟩

/-- Whether a character is in a set. -/
def contains (set : CharacterSet) (character : Char) : Bool :=
  set.ranges.any fun range => range.1 ≤ character.toNat && character.toNat ≤ range.2

/-- Join a range to the ranges behind it that it touches; the ranges behind it begin in increasing order. -/
def joinFrom : Nat × Nat → List (Nat × Nat) → List (Nat × Nat)
  | current, [] => [current]
  | current, next :: rest =>
    if next.1 ≤ current.2 + 1 then joinFrom (current.1, max current.2 next.2) rest
    else current :: joinFrom next rest

/-- The set of ranges in any order, each with its last code not before its first. -/
def ofRanges (ranges : List (Nat × Nat)) : CharacterSet :=
  match ranges.mergeSort fun a b => a.1 ≤ b.1 with
  | [] => empty
  | first :: rest => ⟨joinFrom first rest⟩

/-- The characters in either of two sets. -/
def union (a b : CharacterSet) : CharacterSet := ofRanges (a.ranges ++ b.ranges)

/-- The characters in any of several sets. -/
def unions (sets : List CharacterSet) : CharacterSet := ofRanges (sets.flatMap CharacterSet.ranges)

/-- The ranges between the given ones, from a code on. -/
def gapsFrom (code : Nat) : List (Nat × Nat) → List (Nat × Nat)
  | [] => if code ≤ lastCode then [(code, lastCode)] else []
  | range :: rest =>
    if code < range.1 then (code, range.1 - 1) :: gapsFrom (range.2 + 1) rest
    else gapsFrom (range.2 + 1) rest

/-- The characters outside a set. -/
def complement (set : CharacterSet) : CharacterSet := ⟨gapsFrom 0 set.ranges⟩

/-- The characters in both of two sets. -/
def inter (a b : CharacterSet) : CharacterSet := (a.complement.union b.complement).complement

/-- The characters in the first set only. -/
def difference (a b : CharacterSet) : CharacterSet := a.inter b.complement

/-- The characters in one of two sets only. -/
def symmetricDifference (a b : CharacterSet) : CharacterSet :=
  (a.difference b).union (b.difference a)

/-- Whether all characters of a set are of seven bits. -/
def isAscii (set : CharacterSet) : Bool := set.ranges.all fun range => range.2 < 0x80

/-- The only character of a set of one character. -/
def onlyCharacter? (set : CharacterSet) : Option Char :=
  match set.ranges with
  | [(first, last)] => if first = last then some (Char.ofNat first) else none
  | _ => none

end CharacterSet

end MemoryFabric

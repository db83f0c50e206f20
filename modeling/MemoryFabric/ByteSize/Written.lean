/-!
# Writing sizes

A size is written with the largest unit that divides it exactly, so that nothing is lost.
-/

namespace MemoryFabric.ByteSize

set_option autoImplicit false

/-- The units of written sizes with their numbers of bytes, from the largest to the smallest. -/
def writtenUnits : List (String × Nat) :=
  [("EiB", Nat.pow 1024 6), ("EB", Nat.pow 1000 6),
    ("PiB", Nat.pow 1024 5), ("PB", Nat.pow 1000 5),
    ("TiB", Nat.pow 1024 4), ("TB", Nat.pow 1000 4),
    ("GiB", Nat.pow 1024 3), ("GB", Nat.pow 1000 3),
    ("MiB", Nat.pow 1024 2), ("MB", Nat.pow 1000 2),
    ("KiB", 1024), ("KB", 1000)]

/-- A size with the largest unit that divides it; zero is `0B`. -/
def written (bytes : UInt64) : String :=
  match writtenUnits.find? fun unit => bytes ≠ 0 ∧ bytes.toNat % unit.2 = 0 with
  | some (name, size) => toString (bytes.toNat / size) ++ name
  | none => toString bytes.toNat ++ "B"

end MemoryFabric.ByteSize

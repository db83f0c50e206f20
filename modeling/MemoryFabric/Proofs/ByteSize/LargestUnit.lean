import MemoryFabric.Configuration.Codec
import MemoryFabric.Proofs.ByteSize.RoundTrip

/-!
# The units of written sizes

A size is written in the largest unit that divides it, and a setting takes the text back as the size.  The
binary and the decimal units take turns by their sizes, so the first unit that divides is the largest one.

Main statement: **`written_in_largestUnit`**.
-/

namespace MemoryFabric.ByteSize

set_option autoImplicit false

/-- The units come from the largest to the smallest. -/
theorem unitNames_descending : unitNames.Pairwise fun unit later => later.2 < unit.2 := by
  decide

/-- A unit divides a size, and no larger one does. -/
structure IsLargestUnit (bytes : UInt64) (unit : String × Nat) : Prop where
  known : unit ∈ unitNames
  divides : unit.2 ∣ bytes.toNat
  largest : ∀ other ∈ unitNames, other.2 ∣ bytes.toNat → other.2 ≤ unit.2

/-- The first unit that divides a size is the largest one. -/
theorem isLargestUnit_of_find? {bytes : UInt64} {unit : String × Nat}
    (found : (unitNames.find? fun unit => bytes.toNat % unit.2 = 0) = some unit) :
    IsLargestUnit bytes unit := by
  obtain ⟨divides, before, behind, split, undivided⟩ := List.find?_eq_some_iff_append.1 found
  refine ⟨List.mem_of_find?_eq_some found, Nat.dvd_of_mod_eq_zero (of_decide_eq_true divides),
    fun other known other_divides => ?_⟩
  have descending := unitNames_descending
  rw [split, List.pairwise_append] at descending
  rw [split, List.mem_append, List.mem_cons] at known
  rcases known with known | rfl | known
  · have not_divides := undivided other known
    rw [decide_eq_true (Nat.mod_eq_zero_of_dvd other_divides)] at not_divides
    cases not_divides
  · exact le_refl _
  · exact Nat.le_of_lt ((List.pairwise_cons.1 descending.2.1).1 other known)

/-- A size that is not zero is written as a number of its largest unit. -/
theorem exists_isLargestUnit {bytes : UInt64} (nonzero : bytes ≠ 0) :
    ∃ unit, IsLargestUnit bytes unit ∧ written bytes = toString (bytes.toNat / unit.2) ++ unit.1 := by
  have divides : (fun unit : String × Nat => decide (bytes ≠ 0 ∧ bytes.toNat % unit.2 = 0)) =
      fun unit => decide (bytes.toNat % unit.2 = 0) := by
    funext unit
    exact decide_eq_decide.2 (and_iff_right nonzero)
  rw [written, divides]
  cases found : writtenUnits.find? fun unit => bytes.toNat % unit.2 = 0 with
  | some unit =>
      refine ⟨unit, isLargestUnit_of_find? ?_, rfl⟩
      rw [unitNames, List.find?_append, found, Option.some_or]
  | none =>
      -- Every number of bytes is a number of single bytes.
      refine ⟨("B", 1), isLargestUnit_of_find? ?_, by rw [Nat.div_one]⟩
      rw [unitNames, List.find?_append, found, Option.none_or]
      exact List.find?_cons_of_pos (decide_eq_true (Nat.mod_one _))

/-- **Sizes survive their text.**  The text of a size is read as that size, so that no two sizes have one
text, and a size that is not zero is written as a number of the largest unit that divides it. -/
theorem written_in_largestUnit (bytes : UInt64) :
    Codec.size.read (.text (written bytes)) = .ok bytes ∧
      (∀ other, written other = written bytes → other = bytes) ∧
      unitNames = [("EiB", Nat.pow 1024 6), ("EB", Nat.pow 1000 6), ("PiB", Nat.pow 1024 5),
        ("PB", Nat.pow 1000 5), ("TiB", Nat.pow 1024 4), ("TB", Nat.pow 1000 4),
        ("GiB", Nat.pow 1024 3), ("GB", Nat.pow 1000 3), ("MiB", Nat.pow 1024 2),
        ("MB", Nat.pow 1000 2), ("KiB", 1024), ("KB", 1000), ("B", 1)] ∧
      (bytes ≠ 0 → ∃ unit, IsLargestUnit bytes unit ∧
        written bytes = toString (bytes.toNat / unit.2) ++ unit.1) := by
  refine ⟨?_, fun other same => ?_, by decide, exists_isLargestUnit⟩
  · show (read (written bytes)).mapError ValueError.size = .ok bytes
    rw [read_written, Attempt.mapError_ok]
  · have read_other := read_written other
    rw [same, read_written] at read_other
    exact (Except.ok.inj read_other).symm

/-- A size that is no whole number of binary terabytes and of a small decimal unit only. -/
theorem written_in_largestUnit_gibibytes :
    Codec.size.read (.text "3000000GiB") = .ok 3221225472000000 ∧
      (∀ other, written other = "3000000GiB" → other = 3221225472000000) ∧
      (3221225472000000 : UInt64) ≠ 0 ∧ ∃ unit, IsLargestUnit 3221225472000000 unit ∧
        "3000000GiB" = toString (3221225472000000 / unit.2) ++ unit.1 := by
  have text : written 3221225472000000 = "3000000GiB" := by decide +kernel
  have nonzero : (3221225472000000 : UInt64) ≠ 0 := by decide
  obtain ⟨read, only, _, largest⟩ := written_in_largestUnit 3221225472000000
  rw [text] at read only largest
  exact ⟨read, only, nonzero, largest nonzero⟩

end MemoryFabric.ByteSize

import Mathlib.Data.List.Basic

/-!
# Texts with numbers in them

Generated names are fixed texts with numbers in them.  The skeleton of a text is what is left without its
digits: it tells names of different shapes apart, whatever their numbers are, and names of the same shape
are told apart by the numbers themselves.
-/

namespace MemoryFabric.Text

set_option autoImplicit false

@[simp]
theorem toString_text (text : String) : toString text = text := rfl

/-- The same as `Nat.repr_inj`, which comes only with an import of the whole library. -/
theorem repr_inj {m n : Nat} : m.repr = n.repr ↔ m = n := by
  constructor
  · intro same
    have digits : Nat.toDigits 10 m = Nat.toDigits 10 n := by
      simpa using congrArg String.toList same
    rw [← @Nat.ofDigitChars_ten_toDigits m, digits, Nat.ofDigitChars_ten_toDigits]
  · rintro rfl
    rfl

/-- A text without its digits. -/
def skeleton (text : String) : List Char := text.toList.filter fun character => !character.isDigit

theorem filter_toDigits {n : Nat} :
    (Nat.toDigits 10 n).filter (fun character => !character.isDigit) = [] := by
  refine List.filter_eq_nil_iff.2 fun character member => ?_
  have digit : character.isDigit = true :=
    Nat.isDigit_of_mem_toDigits (by decide) (by decide) member
  simp [digit]

theorem ne_of_skeleton_ne {a b : String} (different : skeleton a ≠ skeleton b) : a ≠ b := by
  rintro rfl
  exact different rfl

end MemoryFabric.Text

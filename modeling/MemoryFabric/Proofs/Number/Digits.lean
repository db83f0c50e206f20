import MemoryFabric.Number.Literal

/-!
# Digits

A digit of any base up to sixteen is one character, up to its case (`digit?_eq_some_iff`), and decimal digits
are read as the number that they denote.  Facts about single characters are read off a table of ASCII
(`ascii_cases`), outside of which there are no digits and no capitals.
-/

namespace MemoryFabric.Number

set_option autoImplicit false

theorem toNat_of_isDigit {character : Char} (digit : character.isDigit = true) :
    48 ≤ character.toNat ∧ character.toNat ≤ 57 :=
  Char.isDigit_iff_toNat.1 digit

/-- A decimal digit has its usual value. -/
theorem digit?_of_isDigit {character : Char} (digit : character.isDigit = true) :
    digit? 10 character = some (character.toNat - '0'.toNat) := by
  have bounds := toNat_of_isDigit digit
  have range : '0' ≤ character ∧ character ≤ '9' := by
    simp only [Char.le_def, UInt32.le_iff_toNat_le]
    exact bounds
  have small : character.toNat - 48 < 10 := by omega
  rw [digit?, if_pos range]
  simp [Option.filter, small]

theorem isDigit_of_mem {n : Nat} :
    ∀ character ∈ Nat.toDigits 10 n, character.isDigit = true := fun _ member =>
  Nat.isDigit_of_mem_toDigits (by decide) (by decide) member

/-- The digits of a number begin with some digit. -/
theorem exists_digit (n : Nat) : ∃ first rest, Nat.toDigits 10 n = first :: rest ∧
    first.isDigit = true := by
  obtain ⟨first, rest, split⟩ := List.exists_cons_of_ne_nil (@Nat.toDigits_ne_nil n 10)
  exact ⟨first, rest, split, isDigit_of_mem first (by rw [split]; exact List.mem_cons_self)⟩

/-- Reading digits does what the core library does. -/
theorem digitsFrom?_of_digits {digits : List Char} {value : Nat}
    (all : ∀ character ∈ digits, character.isDigit = true) :
    digitsFrom? 10 value digits = some (Nat.ofDigitChars 10 digits value) := by
  induction digits generalizing value with
  | nil => rfl
  | cons head tail ih =>
      obtain ⟨digit, all⟩ := List.forall_mem_cons.1 all
      rw [digitsFrom?, digit?_of_isDigit digit, Nat.ofDigitChars_cons, Nat.mul_comm 10]
      exact ih all

/-! ## The characters of digits -/

/-- What holds of each ASCII character by its code and of the others holds of all. -/
theorem ascii_cases {holds : Char → Prop} (table : ∀ code < 128, holds (Char.ofNat code))
    (beyond : ∀ character : Char, ¬ character.toNat < 128 → holds character) (character : Char) :
    holds character := by
  by_cases ascii : character.toNat < 128
  · have here := table character.toNat ascii
    rwa [Char.ofNat_toNat] at here
  · exact beyond character ascii

/-- Outside ASCII there are no capitals. -/
theorem toLower_of_not_ascii {character : Char} (beyond : ¬ character.toNat < 128) :
    character.toLower = character := by
  refine dif_neg fun upper => ?_
  have below : character.toNat ≤ 90 := UInt32.le_iff_toNat_le.1 upper.2
  omega

theorem toLower_toLower {character : Char} : character.toLower.toLower = character.toLower := by
  induction character using ascii_cases with
  | table code small =>
      revert code
      decide
  | beyond character beyond => rw [toLower_of_not_ascii beyond, toLower_of_not_ascii beyond]

/-- No capital becomes an underscore. -/
theorem toLower_eq_underscore_iff {character : Char} : character.toLower = '_' ↔ character = '_' := by
  induction character using ascii_cases with
  | table code small =>
      revert code
      decide
  | beyond character beyond => rw [toLower_of_not_ascii beyond]

theorem digit?_of_not_ascii {base : Nat} {character : Char} (beyond : ¬ character.toNat < 128) :
    digit? base character = none := by
  have high (last : Char) (ascii : last.toNat < 128) : ¬ character ≤ last := by
    rw [Char.le_def, UInt32.le_iff_toNat_le]
    exact fun below => beyond (Nat.lt_of_le_of_lt below ascii)
  rw [digit?, if_neg fun range => high '9' (by decide) range.2,
    if_neg fun range => high 'f' (by decide) range.2, if_neg fun range => high 'F' (by decide) range.2]
  rfl

theorem digit?_sixteen_eq_some_iff {character : Char} {digit : Nat} (small : digit < 16) :
    digit? 16 character = some digit ↔ character.toLower = Nat.digitChar digit := by
  induction character using ascii_cases with
  | table code ascii =>
      revert code digit
      decide +kernel
  | beyond character beyond =>
      rw [digit?_of_not_ascii beyond, toLower_of_not_ascii beyond]
      refine iff_of_false nofun ?_
      rintro rfl
      have written : ∀ digit < 16, (Nat.digitChar digit).toNat < 128 := by decide
      exact beyond (written digit small)

/-- **A digit is written in one way, up to its case.** -/
theorem digit?_eq_some_iff {base : Nat} (base_le : base ≤ 16) {character : Char} {digit : Nat} :
    digit? base character = some digit ↔ digit < base ∧ character.toLower = Nat.digitChar digit := by
  have restricted : digit? base character = some digit ↔
      digit < base ∧ digit? 16 character = some digit := by
    simp only [digit?, Option.filter_eq_some_iff, decide_eq_true_eq]
    constructor
    · exact fun given => ⟨given.2, given.1, Nat.lt_of_lt_of_le given.2 base_le⟩
    · exact fun given => ⟨given.2.1, given.1⟩
  rw [restricted]
  exact and_congr_right fun inside => digit?_sixteen_eq_some_iff (Nat.lt_of_lt_of_le inside base_le)

end MemoryFabric.Number

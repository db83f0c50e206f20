import MemoryFabric.ByteSize.Reader
import MemoryFabric.ByteSize.Written
import MemoryFabric.Proofs.Attempt
import MemoryFabric.Proofs.Number.Digits
import Mathlib.Data.List.Basic
import Mathlib.Tactic.FinCases

/-!
# Written sizes

A size that has been written is read back as it was: its number is read up to the unit, and so many times
the bytes of the unit are the size again.

Main statement: **`read_written`**.
-/

namespace MemoryFabric.ByteSize

set_option autoImplicit false

/-! ## Digits -/

/-- The number of digits is at least what has been read. -/
theorem le_ofDigitChars {digits : List Char} {value : Nat} :
    value ≤ Nat.ofDigitChars 10 digits value := by
  rw [Nat.ofDigitChars_eq_ofDigitChars_zero]
  exact Nat.le_add_right_of_le (Nat.le_mul_of_pos_left value (Nat.pow_pos (by decide)))

/-- Digits are read up to the first character that cannot belong to a number. -/
theorem readNumber_digits {digits rest : List Char} {value : Nat}
    (all : ∀ character ∈ digits, character.isDigit = true)
    (stop : ∀ value, readNumber value rest = .ok (value, rest))
    (bounded : Nat.ofDigitChars 10 digits value < Decimal.digitBound) :
    readNumber ⟨value, 0⟩ (digits ++ rest) = .ok (⟨Nat.ofDigitChars 10 digits value, 0⟩, rest) := by
  induction digits generalizing value with
  | nil => exact stop _
  | cons head tail ih =>
      obtain ⟨digit, all⟩ := List.forall_mem_cons.1 all
      rw [Nat.ofDigitChars_cons] at bounded ⊢
      have pushed : Decimal.pushDigit? ⟨value, 0⟩ (head.toNat - '0'.toNat) =
          some ⟨10 * value + (head.toNat - '0'.toNat), 0⟩ := by
        have fits := Nat.lt_of_le_of_lt le_ofDigitChars bounded
        rw [Decimal.pushDigit?, Nat.mul_comm value, if_pos fits]
      simp only [List.cons_append, readNumber, Number.digit?_of_isDigit digit, pushed]
      exact ih all bounded

/-! ## Units -/

/-- The names of units in written sizes. -/
def unitNames : List (String × Nat) := writtenUnits ++ [("B", 1)]

/-- Every written size is a number of some unit. -/
theorem written_eq (bytes : UInt64) :
    ∃ unit ∈ unitNames, ∃ number, number * unit.2 = bytes.toNat ∧
      written bytes = toString number ++ unit.1 := by
  rw [written]
  split
  · next name size found =>
      have member := List.mem_of_find?_eq_some found
      have divides := List.find?_some found
      refine ⟨(name, size), List.mem_append_left _ member, bytes.toNat / size, ?_, rfl⟩
      exact Nat.div_mul_cancel (Nat.dvd_of_mod_eq_zero (of_decide_eq_true divides).2)
  · exact ⟨("B", 1), by simp [unitNames], bytes.toNat, Nat.mul_one _, rfl⟩

/-- No number goes on with a unit. -/
theorem readNumber_unit {unit : String × Nat} (member : unit ∈ unitNames) (value : Decimal) :
    readNumber value unit.1.toList = .ok (value, unit.1.toList) := by
  fin_cases member <;> rfl

/-- Units are read as what they stand for. -/
theorem read_unit {unit : String × Nat} (member : unit ∈ unitNames) :
    SizeUnit.read (unit.1.toList.dropWhile (· = ' ')) = .ok (.bytes unit.2) := by
  fin_cases member <;> rfl

theorem unit_ending {unit : String × Nat} (member : unit ∈ unitNames) :
    unit.1.toList.getLast? = some 'B' := by
  fin_cases member <;> rfl

/-- No unit begins with the mark of a hexadecimal number. -/
theorem unit_beginning {unit : String × Nat} (member : unit ∈ unitNames) :
    ∀ rest, (unit.1.toList.map Char.toLower) ≠ 'x' :: rest := by
  fin_cases member <;> exact nofun

/-! ## Blanks -/

theorem isBlank_of_isDigit {character : Char} (digit : character.isDigit = true) :
    Text.isBlank character = false := by
  have bounds := Number.toNat_of_isDigit digit
  simp only [Text.isBlank, Bool.or_eq_false_iff, Bool.and_eq_false_iff, decide_eq_false_iff_not]
  omega

/-! ## The round trip -/

theorem fit?_whole {digits : Nat} (bounded : digits < Decimal.digitBound) :
    Decimal.fit? digits 0 = some ⟨digits, 0⟩ := by
  have nearest : Number.nearestQuotient digits (Nat.pow 10 0) = digits := by
    simp [Number.nearestQuotient, Number.roundedQuotient, Nat.mod_one]
  simp only [Decimal.fit?, Nat.zero_add, List.range_one, List.findSome?_cons, nearest, if_pos bounded,
    Nat.sub_zero]

/-- A whole number of a unit is its bytes. -/
theorem wholeBytes?_of_eq {number size : Nat} {bytes : UInt64} (product : number * size = bytes.toNat) :
    wholeBytes? ⟨number, 0⟩ (.bytes size) = some bytes := by
  have fits := Word.toNat_lt_count bytes
  have bounded : bytes.toNat < Decimal.digitBound := by
    simp only [Word.count, Decimal.digitBound] at fits ⊢
    omega
  have rounded : Decimal.roundUp ⟨bytes.toNat, 0⟩ = bytes.toNat := by
    simp [Decimal.roundUp, Number.quotientUp]
  simp only [wholeBytes?, Decimal.scale?, product, fit?_whole bounded, Option.bind_some, rounded,
    Word.ofNat?, if_pos fits]
  exact congrArg some (UInt64.ofNat_toNat)

theorem unit_pos {unit : String × Nat} (member : unit ∈ unitNames) : 0 < unit.2 := by
  fin_cases member <;> decide

/-- **A number with a unit is read.** -/
theorem readQuantity_digits {number : Nat} {unit : String × Nat} (member : unit ∈ unitNames)
    {bytes : UInt64} (product : number * unit.2 = bytes.toNat) :
    readQuantity (Nat.toDigits 10 number ++ unit.1.toList) = .ok bytes := by
  have bounded : Nat.ofDigitChars 10 (Nat.toDigits 10 number) 0 < Decimal.digitBound := by
    have fits := Word.toNat_lt_count bytes
    have le : number ≤ number * unit.2 := Nat.le_mul_of_pos_right number (unit_pos member)
    rw [Nat.ofDigitChars_ten_toDigits]
    simp only [Word.count, Decimal.digitBound] at fits ⊢
    omega
  obtain ⟨head, tail, split, digit⟩ := Number.exists_digit number
  have numbered := readNumber_digits Number.isDigit_of_mem (readNumber_unit member) bounded
  rw [Nat.ofDigitChars_ten_toDigits] at numbered
  have trimmed : Text.trimBlanks (Nat.toDigits 10 number ++ unit.1.toList) =
      Nat.toDigits 10 number ++ unit.1.toList := by
    refine Text.trimBlanks_of_ends (fun character first => ?_) (fun character last => ?_)
    · rw [split, List.cons_append, List.head?_cons] at first
      cases first
      exact isBlank_of_isDigit digit
    · rw [List.getLast?_append, unit_ending member] at last
      cases last
      decide
  rw [readQuantity, trimmed]
  rw [split, List.cons_append] at numbered ⊢
  simp only [Number.digit?_of_isDigit digit, Option.isNone_some, Bool.false_eq_true, if_false, numbered,
    Attempt.ok_bind, read_unit member, wholeBytes?_of_eq product]

theorem toLower_of_isDigit {character : Char} (digit : character.isDigit = true) :
    character.toLower = character := by
  have bounds := Number.toNat_of_isDigit digit
  refine dif_neg fun upper => ?_
  have above : 65 ≤ character.toNat := UInt32.le_iff_toNat_le.1 upper.1
  omega

/-- A written size is not taken for a hexadecimal number. -/
theorem not_hexadecimal {number : Nat} {unit : String × Nat} (member : unit ∈ unitNames) (first : Char)
    (rest : List Char) :
    (Nat.toDigits 10 number ++ unit.1.toList).map Char.toLower ≠ first :: 'x' :: rest := by
  intro marked
  have all := @Number.isDigit_of_mem number
  obtain ⟨head, tail, split, _⟩ := Number.exists_digit number
  rw [split] at all marked
  rw [List.cons_append, List.map_cons] at marked
  have second := (List.cons.inj marked).2
  cases tail with
  | nil => exact unit_beginning member rest second
  | cons next tail =>
      rw [List.cons_append, List.map_cons] at second
      have digit := all next (by simp)
      have same := (List.cons.inj second).1
      rw [toLower_of_isDigit digit] at same
      cases same
      cases digit

/-- **A written size is read back as it was.** -/
theorem read_written (bytes : UInt64) : read (written bytes) = .ok bytes := by
  obtain ⟨unit, member, number, product, text⟩ := written_eq bytes
  have characters : (written bytes).toList = Nat.toDigits 10 number ++ unit.1.toList := by
    rw [text]
    simp
  rw [read, characters]
  split
  · next rest marked => exact absurd marked (not_hexadecimal member _ rest)
  · rw [readQuantity_digits member product]
    rfl

end MemoryFabric.ByteSize

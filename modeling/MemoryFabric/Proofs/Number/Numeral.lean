import MemoryFabric.Proofs.Attempt
import MemoryFabric.Proofs.Number.Digits
import Mathlib.Data.List.Induction

/-!
# Decimal numerals

The texts that the readers of whole numbers accept, and the numbers that they take them for: a sign, if any,
and digits, with any zeros in front.  Of the numerals of one natural number without a sign, the one without
superfluous zeros is the one that is written.

Main statements: **`word?_eq_some_iff`**, **`signedWord?_eq_some_iff`** and **`toDigits_ofDigitChars_iff`**.
-/

namespace MemoryFabric.Number

set_option autoImplicit false

/-- Characters are decimal digits, and there are some. -/
structure AreDigits (characters : List Char) : Prop where
  nonempty : characters ≠ []
  isDigit : ∀ character ∈ characters, character.isDigit = true

theorem AreDigits.not_mem {digits : List Char} (areDigits : AreDigits digits) {character : Char}
    (other : character.isDigit = false) : character ∉ digits := by
  intro member
  rw [areDigits.isDigit character member] at other
  cases other

/-! ## Readers -/

theorem isSome_digit?_ten {character : Char} : (digit? 10 character).isSome = character.isDigit := by
  induction character using ascii_cases with
  | table code ascii =>
      revert code
      decide
  | beyond character beyond =>
      rw [digit?_of_not_ascii beyond, Option.isSome_none]
      refine (Bool.eq_false_iff.2 fun digit => beyond ?_).symm
      exact Nat.lt_of_le_of_lt (toNat_of_isDigit digit).2 (by decide)

theorem isDigit_of_digitsFrom? {characters : List Char} {value n : Nat}
    (reads : digitsFrom? 10 value characters = some n) :
    ∀ character ∈ characters, character.isDigit = true := by
  induction characters generalizing value with
  | nil => exact nofun
  | cons head tail ih =>
      rw [digitsFrom?] at reads
      split at reads
      · next known =>
          have digit : head.isDigit = true := by rw [← isSome_digit?_ten, known, Option.isSome_some]
          exact List.forall_mem_cons.2 ⟨digit, ih reads⟩
      · cases reads

theorem digitsFrom?_eq_some_iff {characters : List Char} {value n : Nat} :
    digitsFrom? 10 value characters = some n ↔
      (∀ character ∈ characters, character.isDigit = true) ∧
        Nat.ofDigitChars 10 characters value = n := by
  constructor
  · intro reads
    have all := isDigit_of_digitsFrom? reads
    rw [digitsFrom?_of_digits all] at reads
    exact ⟨all, Option.some.inj reads⟩
  · rintro ⟨all, rfl⟩
    exact digitsFrom?_of_digits all

theorem digits?_eq_some_iff {characters : List Char} {n : Nat} :
    digits? 10 characters = some n ↔ AreDigits characters ∧ Nat.ofDigitChars 10 characters 0 = n := by
  rw [digits?]
  split
  · next empty =>
      exact iff_of_false (Option.some_ne_none n).symm fun both => both.1.nonempty (List.isEmpty_iff.1 empty)
  · next nonempty =>
      rw [digitsFrom?_eq_some_iff]
      refine and_congr_left fun _ => ⟨fun all => ⟨?_, all⟩, AreDigits.isDigit⟩
      exact fun none => nonempty (List.isEmpty_iff.2 none)

/-- A natural number is its digits, or a plus and its digits. -/
theorem natural?_eq_some_iff {characters : List Char} {n : Nat} :
    natural? 10 characters = some n ↔ ∃ digits, (characters = digits ∨ characters = '+' :: digits) ∧
      AreDigits digits ∧ Nat.ofDigitChars 10 digits 0 = n := by
  unfold natural?
  split
  · next rest =>
      rw [digits?_eq_some_iff]
      constructor
      · exact fun both => ⟨rest, .inr rfl, both⟩
      · rintro ⟨digits, rfl | same, areDigits, denoted⟩
        · exact absurd List.mem_cons_self (areDigits.not_mem rfl)
        · cases same
          exact ⟨areDigits, denoted⟩
  · next plusless =>
      rw [digits?_eq_some_iff]
      constructor
      · exact fun both => ⟨characters, .inl rfl, both⟩
      · rintro ⟨digits, rfl | same, both⟩
        · exact both
        · exact absurd same (plusless digits)

/-- Digits of a word are read, also behind a plus. -/
theorem word?_eq_some_iff {characters : List Char} {word : UInt64} :
    word? 10 characters = some word ↔ ∃ digits, (characters = digits ∨ characters = '+' :: digits) ∧
      AreDigits digits ∧ Nat.ofDigitChars 10 digits 0 = word.toNat := by
  rw [word?, ← natural?_eq_some_iff]
  cases natural? 10 characters with
  | none => simp
  | some n =>
      rw [Option.bind_some, Option.some.injEq]
      split
      · next inside =>
          rw [Option.some.injEq]
          constructor
          · rintro rfl
            exact (Word.toNat_ofNat inside).symm
          · rintro rfl
            exact UInt64.ofNat_toNat
      · next outside =>
          refine iff_of_false (Option.some_ne_none word).symm fun same => outside ?_
          exact same ▸ word.toNat_lt

/-- **The decimal digits of a word are read as the word.** -/
theorem word?_toDigits (word : UInt64) : word? 10 (Nat.toDigits 10 word.toNat) = some word :=
  word?_eq_some_iff.2
    ⟨_, .inl rfl, ⟨Nat.toDigits_ne_nil, isDigit_of_mem⟩, Nat.ofDigitChars_ten_toDigits⟩

theorem word?_ne_none {characters digits : List Char}
    (shape : characters = digits ∨ characters = '+' :: digits) (areDigits : AreDigits digits)
    (fits : Nat.ofDigitChars 10 digits 0 < Word.count) : word? 10 characters ≠ none := by
  have read := word?_eq_some_iff.2 ⟨digits, shape, areDigits, (Word.toNat_ofNat fits).symm⟩
  rw [read]
  exact Option.some_ne_none _

/-- Digits of a signed word are read, also behind a sign. -/
theorem signedWord?_eq_some_iff {characters : List Char} {word : Int64} :
    signedWord? 10 characters = some word ↔ ∃ digits, AreDigits digits ∧
      ((characters = digits ∨ characters = '+' :: digits) ∧
          (Nat.ofDigitChars 10 digits 0 : Int) = word.toInt ∨
        characters = '-' :: digits ∧ -(Nat.ofDigitChars 10 digits 0 : Int) = word.toInt) := by
  have integer : signedWord? 10 characters = some word ↔ integer? 10 characters = some word.toInt := by
    rw [signedWord?]
    cases integer? 10 characters with
    | none => simp
    | some n =>
        rw [Option.bind_some, Option.some.injEq]
        split
        · next inside =>
            rw [Option.some.injEq]
            constructor
            · rintro rfl
              exact (Int64.toInt_ofInt_of_le inside.1 inside.2).symm
            · rintro rfl
              exact Int64.ofInt_toInt word
        · next outside =>
            refine iff_of_false (Option.some_ne_none word).symm fun same => outside ?_
            rw [same]
            exact ⟨word.le_toInt, word.toInt_lt⟩
  rw [integer]
  unfold integer?
  split
  · next rest =>
      simp only [Option.map_eq_some_iff, Option.bind_eq_bind, Option.bind_eq_some_iff, Option.pure_def,
        Option.some.injEq, digits?_eq_some_iff]
      constructor
      · rintro ⟨_, ⟨_, ⟨areDigits, rfl⟩, rfl⟩, denoted⟩
        exact ⟨rest, areDigits, .inr ⟨rfl, denoted⟩⟩
      · rintro ⟨digits, areDigits, ⟨rfl | same, _⟩ | ⟨same, denoted⟩⟩
        · exact absurd List.mem_cons_self (areDigits.not_mem rfl)
        · cases same
        · cases same
          exact ⟨_, ⟨_, ⟨areDigits, rfl⟩, rfl⟩, denoted⟩
  · next minusless =>
      simp only [Option.map_eq_some_iff, natural?_eq_some_iff]
      constructor
      · rintro ⟨n, ⟨digits, shape, areDigits, rfl⟩, denoted⟩
        exact ⟨digits, areDigits, .inl ⟨shape, denoted⟩⟩
      · rintro ⟨digits, areDigits, ⟨shape, denoted⟩ | ⟨same, _⟩⟩
        · exact ⟨_, ⟨digits, shape, areDigits, rfl⟩, denoted⟩
        · exact absurd same (minusless digits)

theorem signedWord?_minus_ne_none {digits : List Char} (areDigits : AreDigits digits)
    (fits : Nat.ofDigitChars 10 digits 0 ≤ 0x8000000000000000) : signedWord? 10 ('-' :: digits) ≠ none := by
  have inside : (Int64.ofInt (-(Nat.ofDigitChars 10 digits 0 : Int))).toInt =
    -(Nat.ofDigitChars 10 digits 0 : Int) := Int64.toInt_ofInt_of_le (by omega) (by omega)
  rw [signedWord?_eq_some_iff.2 ⟨digits, areDigits, .inr ⟨rfl, inside.symm⟩⟩]
  exact Option.some_ne_none _

/-! ## Written numbers -/

theorem toDigits_head_ne_zero {n : Nat} (positive : 0 < n) {rest : List Char} :
    Nat.toDigits 10 n ≠ '0' :: rest := by
  induction n using Nat.strongRecOn generalizing rest with
  | ind n ih =>
      by_cases small : n < 10
      · have nonzero : ∀ digit < 10, 0 < digit → Nat.digitChar digit ≠ '0' := by decide
        rw [Nat.toDigits_of_lt_base small]
        exact fun same => nonzero n small positive (List.cons.inj same).1
      · obtain ⟨first, later, split⟩ := List.exists_cons_of_ne_nil (@Nat.toDigits_ne_nil (n / 10) 10)
        rw [Nat.toDigits_of_base_le (by decide) (by omega), split]
        intro same
        have zero : first = '0' := (List.cons.inj same).1
        exact ih (n / 10) (by omega) (by omega) (zero ▸ split)

/-- A decimal digit is written as it is. -/
theorem digitChar_of_isDigit {character : Char} (digit : character.isDigit = true) :
    character.toNat - '0'.toNat < 10 ∧ Nat.digitChar (character.toNat - '0'.toNat) = character := by
  induction character using ascii_cases with
  | table code ascii =>
      revert code
      decide
  | beyond character beyond =>
      exact absurd (Nat.lt_of_le_of_lt (toNat_of_isDigit digit).2 (by decide)) beyond

/-- Digits with no zero in front of others are the digits of the number that they denote. -/
theorem toDigits_ofDigitChars {digits : List Char} (areDigits : AreDigits digits)
    (leading : ∀ rest, digits = '0' :: rest → rest = []) :
    Nat.toDigits 10 (Nat.ofDigitChars 10 digits 0) = digits := by
  -- Numbers are written from the last digit on, so the induction takes the last digit off.
  induction digits using List.reverseRecOn with
  | nil => exact absurd rfl areDigits.nonempty
  | append_singleton front last ih =>
      obtain ⟨small, written⟩ :=
        digitChar_of_isDigit (areDigits.isDigit last (List.mem_append_right _ List.mem_cons_self))
      rw [Nat.ofDigitChars_append, Nat.ofDigitChars_cons, Nat.ofDigitChars_nil]
      by_cases single : front = []
      · rw [single, Nat.ofDigitChars_nil, Nat.mul_zero, Nat.zero_add, Nat.toDigits_of_lt_base small,
          written, List.nil_append]
      · have front_digits : AreDigits front :=
          ⟨single, fun character member => areDigits.isDigit character (List.mem_append_left _ member)⟩
        have front_leading (rest : List Char) : front ≠ '0' :: rest := by
          rintro rfl
          exact absurd (leading _ rfl) (by simp)
        have front_written := ih front_digits fun rest same => absurd same (front_leading rest)
        have positive : 0 < Nat.ofDigitChars 10 front 0 := by
          refine Nat.pos_of_ne_zero fun zero => front_leading [] ?_
          rw [← front_written, zero, Nat.toDigits_zero]
        rw [← Nat.toDigits_append_toDigits (by decide) positive small, front_written,
          Nat.toDigits_of_lt_base small, written]

/-- **Digits are written as they are exactly when there is no zero in front of others.** -/
theorem toDigits_ofDigitChars_iff {digits : List Char} (areDigits : AreDigits digits) :
    Nat.toDigits 10 (Nat.ofDigitChars 10 digits 0) = digits ↔
      ∀ rest, digits = '0' :: rest → rest = [] := by
  refine ⟨?_, toDigits_ofDigitChars areDigits⟩
  rintro same rest rfl
  by_cases zero : Nat.ofDigitChars 10 ('0' :: rest) 0 = 0
  · rw [zero, Nat.toDigits_zero] at same
    exact (List.cons.inj same).2.symm
  · exact absurd same (toDigits_head_ne_zero (Nat.pos_of_ne_zero zero))

/-- A number without a minus is written in digits. -/
theorem toString_natural_eq_iff {n : Nat} {characters : List Char} :
    toString n = String.ofList characters ↔ Nat.toDigits 10 n = characters := by
  rw [Nat.toString_eq_ofList_toDigits, String.ofList_inj]

/-- A minus is written in front of the digits of a negative number, and of no other one. -/
theorem toString_neg_eq_iff {n : Nat} {digits : List Char} :
    toString (-(n : Int)) = String.ofList ('-' :: digits) ↔ 0 < n ∧ Nat.toDigits 10 n = digits := by
  rw [Int.toString_eq_repr, Int.repr_eq_if]
  split
  · next nonnegative =>
      obtain rfl : n = 0 := by omega
      refine iff_of_false (fun same => ?_) fun both => absurd both.1 (Nat.lt_irrefl 0)
      have written : ['0'] = '-' :: digits := String.ofList_injective same
      cases written
  · next negative =>
      have magnitude : (- -(n : Int)).toNat = n := by omega
      rw [magnitude, Nat.repr_eq_ofList_toDigits, and_iff_right (by omega)]
      have signed : "-" ++ String.ofList (Nat.toDigits 10 n) =
          String.ofList ('-' :: Nat.toDigits 10 n) := by
        rw [← List.singleton_append, String.ofList_append]
      rw [signed, String.ofList_inj, List.cons_inj_right]

end MemoryFabric.Number

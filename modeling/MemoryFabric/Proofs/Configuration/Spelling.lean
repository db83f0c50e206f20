import MemoryFabric.Configuration.Codec
import MemoryFabric.Configuration.Environment
import MemoryFabric.Proofs.Number.Numeral
import Mathlib.Data.List.TakeWhile

/-!
# The spelling of text from the environment

The text of a variable is read before it is known what it is for.  A setting that takes any scalar as text
gets back what was written, unless that denotes a number and the number is written in another way
(`Environment.IsRespelled`).

Main statement: **`Environment.text_read_value_eq_ok_iff`**.
-/

namespace MemoryFabric.Environment

set_option autoImplicit false

/-- Letters, digits, points and signs: the characters that have no meaning of their own in the text of a
variable. -/
def isBareCharacter (character : Char) : Bool :=
  character.isAlphanum || character = '.' || character = '+' || character = '-'

/-- Texts that denote a number which is written in another way. -/
inductive IsRespelled : List Char → Prop
  /-- A word with a zero in front of other digits. -/
  | zeros {digits : List Char} (areDigits : Number.AreDigits digits)
      (fits : Nat.ofDigitChars 10 digits 0 < Word.count) : IsRespelled ('0' :: digits)
  /-- A word behind a plus. -/
  | plus {digits : List Char} (areDigits : Number.AreDigits digits)
      (fits : Nat.ofDigitChars 10 digits 0 < Word.count) : IsRespelled ('+' :: digits)
  /-- A signed word with a minus and a zero in front. -/
  | minusZero {digits : List Char} (areDigits : Number.AreDigits ('0' :: digits))
      (fits : Nat.ofDigitChars 10 digits 0 ≤ 0x8000000000000000) : IsRespelled ('-' :: '0' :: digits)
  /-- A fraction that is not the shortest decimal of its number. -/
  | fraction {characters : List Char} {number : Binary64} (pointed : '.' ∈ characters)
      (denotes : Number.fraction? characters = some number)
      (different : number.setting ≠ String.ofList characters) : IsRespelled characters

/-! ## Words -/

/-- What a word without blanks at its ends denotes. -/
inductive Denotes (word : List Char) : Value → Prop
  | fraction {number : Binary64} (pointed : '.' ∈ word) (reads : Number.fraction? word = some number) :
      Denotes word (.number number)
  | unsigned {value : UInt64} (reads : Number.word? 10 word = some value) : Denotes word (.unsigned value)
  | signed {value : Int64} (unread : Number.word? 10 word = none)
      (reads : Number.signedWord? 10 word = some value) : Denotes word (.signed value)
  | text (noFraction : '.' ∈ word → Number.fraction? word = none) (noWord : Number.word? 10 word = none)
      (noSignedWord : Number.signedWord? 10 word = none) : Denotes word (.text (String.ofList word))

theorem denotes_wordValue {word : List Char} (trimmed : Text.trimBlanks word = word) :
    Denotes word (wordValue word) := by
  have whole (noFraction : '.' ∈ word → Number.fraction? word = none) :
      Denotes word (((Number.word? 10 word).map Value.unsigned).or
        ((Number.signedWord? 10 word).map Value.signed) |>.getD (.text (String.ofList word))) := by
    cases unsigned : Number.word? 10 word with
    | some value => exact .unsigned unsigned
    | none =>
        cases signed : Number.signedWord? 10 word with
        | some value => exact .signed unsigned signed
        | none => exact .text noFraction unsigned signed
  rw [wordValue, trimmed]
  by_cases pointed : '.' ∈ word
  · rw [if_pos (List.contains_iff_mem.2 pointed)]
    cases reads : Number.fraction? word with
    | some number => exact .fraction pointed reads
    | none => exact whole fun _ => reads
  · rw [if_neg fun contained => pointed (List.contains_iff_mem.1 contained)]
    exact whole fun member => absurd member pointed

/-! ## Which texts are respelled -/

section Respelled

variable {word digits : List Char}

/-- Digits, also behind a sign, are no fraction. -/
theorem point_not_mem_cons (areDigits : Number.AreDigits digits) {sign : Char} (noPoint : sign ≠ '.') :
    '.' ∉ sign :: digits :=
  List.not_mem_cons_of_ne_of_not_mem noPoint.symm (areDigits.not_mem rfl)

theorem isRespelled_fraction_iff {number : Binary64} (pointed : '.' ∈ word)
    (reads : Number.fraction? word = some number) :
    IsRespelled word ↔ number.setting ≠ String.ofList word := by
  constructor
  · intro respelled
    cases respelled with
    | zeros areDigits => exact absurd pointed (point_not_mem_cons areDigits (by decide))
    | plus areDigits => exact absurd pointed (point_not_mem_cons areDigits (by decide))
    | minusZero areDigits => exact absurd pointed (point_not_mem_cons areDigits (by decide))
    | fraction _ again different =>
        cases reads.symm.trans again
        exact different
  · exact .fraction pointed reads

theorem isRespelled_digits_iff (areDigits : Number.AreDigits digits)
    (fits : Nat.ofDigitChars 10 digits 0 < Word.count) :
    IsRespelled digits ↔ ∃ rest, digits = '0' :: rest ∧ rest ≠ [] := by
  constructor
  · intro respelled
    cases respelled with
    | zeros more => exact ⟨_, rfl, more.nonempty⟩
    | plus => exact absurd List.mem_cons_self (areDigits.not_mem rfl)
    | minusZero => exact absurd List.mem_cons_self (areDigits.not_mem rfl)
    | fraction pointed => exact absurd pointed (areDigits.not_mem rfl)
  · rintro ⟨rest, rfl, more⟩
    exact .zeros ⟨more, fun _ member => areDigits.isDigit _ (List.mem_cons_of_mem _ member)⟩ fits

theorem isRespelled_minus_iff (areDigits : Number.AreDigits digits)
    (fits : Nat.ofDigitChars 10 digits 0 ≤ 0x8000000000000000) :
    IsRespelled ('-' :: digits) ↔ ∃ rest, digits = '0' :: rest := by
  constructor
  · intro respelled
    cases respelled with
    | minusZero => exact ⟨_, rfl⟩
    | fraction pointed => exact absurd pointed (point_not_mem_cons areDigits (by decide))
  · rintro ⟨rest, rfl⟩
    exact .minusZero areDigits fits

/-- A text that is no number is not respelled. -/
theorem not_isRespelled_of_unread (noFraction : '.' ∈ word → Number.fraction? word = none)
    (noWord : Number.word? 10 word = none) (noSignedWord : Number.signedWord? 10 word = none) :
    ¬ IsRespelled word := by
  intro respelled
  cases respelled with
  | @zeros digits areDigits fits =>
      have all : Number.AreDigits ('0' :: digits) :=
        ⟨List.cons_ne_nil _ _, List.forall_mem_cons.2 ⟨rfl, areDigits.isDigit⟩⟩
      exact Number.word?_ne_none (.inl rfl) all fits noWord
  | plus areDigits fits => exact Number.word?_ne_none (.inr rfl) areDigits fits noWord
  | minusZero areDigits fits => exact Number.signedWord?_minus_ne_none areDigits fits noSignedWord
  | fraction pointed reads => cases (noFraction pointed).symm.trans reads

end Respelled

/-! ## Words as text -/

/-- A word in digits comes back unless there is a zero in front. -/
theorem toString_eq_digits_iff {digits : List Char} (areDigits : Number.AreDigits digits)
    (fits : Nat.ofDigitChars 10 digits 0 < Word.count) :
    toString (Nat.ofDigitChars 10 digits 0) = String.ofList digits ↔ ¬ IsRespelled digits := by
  rw [Number.toString_natural_eq_iff, Number.toDigits_ofDigitChars_iff areDigits,
    isRespelled_digits_iff areDigits fits]
  simp only [not_exists, not_and, not_not]

/-- No number is written with a plus. -/
theorem toString_ne_plus {n : Nat} {digits : List Char} : toString n ≠ String.ofList ('+' :: digits) := by
  intro same
  have plus : '+' ∈ Nat.toDigits 10 n :=
    Number.toString_natural_eq_iff.1 same ▸ List.mem_cons_self
  cases Number.isDigit_of_mem _ plus

/-- A signed word behind a minus comes back unless there is a zero in front. -/
theorem toString_eq_minus_iff {digits : List Char} (areDigits : Number.AreDigits digits)
    (fits : Nat.ofDigitChars 10 digits 0 ≤ 0x8000000000000000) :
    toString (-(Nat.ofDigitChars 10 digits 0 : Int)) = String.ofList ('-' :: digits) ↔
      ¬ IsRespelled ('-' :: digits) := by
  rw [Number.toString_neg_eq_iff, Number.toDigits_ofDigitChars_iff areDigits,
    isRespelled_minus_iff areDigits fits]
  constructor
  · rintro ⟨positive, leading⟩ ⟨rest, rfl⟩
    cases leading rest rfl
    exact absurd positive (by decide)
  · intro nowhere
    have leading (rest : List Char) (same : digits = '0' :: rest) : rest = [] :=
      absurd ⟨rest, same⟩ nowhere
    have written := Number.toDigits_ofDigitChars areDigits leading
    refine ⟨Nat.pos_of_ne_zero fun zero => nowhere ⟨[], ?_⟩, leading⟩
    rw [← written, zero, Nat.toDigits_zero]

/-- **A word comes back as text unless it is respelled.** -/
theorem text_read_wordValue_eq_ok_iff {word : List Char} (trimmed : Text.trimBlanks word = word) :
    Codec.text.read (wordValue word) = .ok (String.ofList word) ↔ ¬ IsRespelled word := by
  have denotes := denotes_wordValue trimmed
  generalize wordValue word = value at denotes
  cases denotes with
  | @fraction number pointed reads =>
      show Except.ok number.setting = .ok (String.ofList word) ↔ _
      rw [Except.ok.injEq, isRespelled_fraction_iff pointed reads, not_not]
  | @unsigned value reads =>
      obtain ⟨digits, shape, areDigits, value_eq⟩ := Number.word?_eq_some_iff.1 reads
      have fits : Nat.ofDigitChars 10 digits 0 < Word.count := value_eq ▸ value.toNat_lt
      show Except.ok (toString value.toNat) = .ok (String.ofList word) ↔ _
      rw [Except.ok.injEq, ← value_eq]
      rcases shape with rfl | rfl
      · exact toString_eq_digits_iff areDigits fits
      · exact iff_of_false toString_ne_plus fun plain => plain (.plus areDigits fits)
  | @signed value unread reads =>
      obtain ⟨digits, areDigits, ⟨shape, value_eq⟩ | ⟨rfl, value_eq⟩⟩ :=
        Number.signedWord?_eq_some_iff.1 reads
      · have below := value.toInt_lt
        have more : 0x8000000000000000 < Word.count := by decide
        exact absurd unread (Number.word?_ne_none shape areDigits (by omega))
      · have above := value.le_toInt
        show Except.ok (toString value.toInt) = .ok (String.ofList ('-' :: digits)) ↔ _
        rw [Except.ok.injEq, ← value_eq]
        exact toString_eq_minus_iff areDigits (by omega)
  | text noFraction noWord noSignedWord =>
      exact iff_of_true rfl (not_isRespelled_of_unread noFraction noWord noSignedWord)

/-! ## Texts of variables -/

theorem toNat_lt_of_isAlpha {character : Char} (letter : character.isAlpha = true) :
    character.toNat < 128 := by
  rcases Bool.or_eq_true_iff.1 letter with upper | lower
  · have last : character ≤ 'Z' := (of_decide_eq_true upper).2
    exact Nat.lt_of_le_of_lt (UInt32.le_iff_toNat_le.1 last) (by decide)
  · have last : character ≤ 'z' := of_decide_eq_true (Bool.and_eq_true_iff.1 lower).2
    exact Nat.lt_of_le_of_lt (UInt32.le_iff_toNat_le.1 last) (by decide)

theorem toNat_lt_of_isBareCharacter {character : Char} (bare : isBareCharacter character = true) :
    character.toNat < 128 := by
  simp only [isBareCharacter, Char.isAlphanum, Bool.or_eq_true, decide_eq_true_eq] at bare
  rcases bare with (((letter | digit) | rfl) | rfl) | rfl
  · exact toNat_lt_of_isAlpha letter
  · exact Nat.lt_of_le_of_lt (Number.toNat_of_isDigit digit).2 (by decide)
  all_goals decide

/-- Bare characters do not end a word. -/
theorem not_special_of_isBareCharacter {character : Char} (bare : isBareCharacter character = true) :
    isSpace character = false ∧ isSeparator character = false ∧ Text.isBlank character = false := by
  induction character using Number.ascii_cases with
  | table code ascii =>
      revert code
      decide
  | beyond character beyond => exact absurd (toNat_lt_of_isBareCharacter bare) beyond

section Bare

variable {word : List Char} (bare : ∀ character ∈ word, isBareCharacter character = true)

include bare

theorem dropWhile_isSpace_of_bare : word.dropWhile isSpace = word := by
  cases word with
  | nil => rfl
  | cons head tail =>
      have noSpace := (not_special_of_isBareCharacter (bare head List.mem_cons_self)).1
      rw [List.dropWhile_cons, noSpace, if_neg Bool.false_ne_true]

theorem trimBlanks_of_bare : Text.trimBlanks word = word := by
  have noBlank (character : Char) (member : character ∈ word) : Text.isBlank character = false :=
    (not_special_of_isBareCharacter (bare character member)).2.2
  exact Text.trimBlanks_of_ends (fun character first => noBlank character (List.mem_of_mem_head? first))
    fun character last => noBlank character (List.mem_of_getLast? last)

/-- Bare characters are a word from the begin to the end, unless they begin with a truth value. -/
theorem readBare?_of_bare (noTrue : ∀ rest, word ≠ 't' :: 'r' :: 'u' :: 'e' :: rest)
    (noFalse : ∀ rest, word ≠ 'f' :: 'a' :: 'l' :: 's' :: 'e' :: rest) {fuel : Nat} :
    readBare? (fuel + 1) word = some (wordValue word, []) := by
  rw [readBare?]
  · have whole : (word.takeWhile fun character => !isSeparator character) = word := by
      refine List.takeWhile_eq_self_iff.2 fun character member => ?_
      rw [(not_special_of_isBareCharacter (bare character member)).2.1, Bool.not_false]
    rw [whole, List.drop_length]
  · exact noTrue
  · exact noFalse
  all_goals
    rintro rest rfl
    cases bare _ List.mem_cons_self

end Bare

/-- A number that is written as a word has no point. -/
theorem point_not_mem_of_numberWord? {negative : Bool} {number : Binary64} {characters : List Char}
    (reads : Number.numberWord? negative characters = some number) : '.' ∉ characters := by
  have noPoint {text : String} (lowered : String.ofList (characters.map Char.toLower) = text)
      (absent : '.' ∉ text.toList) : '.' ∉ characters := by
    rw [← lowered, String.toList_ofList] at absent
    exact fun member => absent (List.mem_map_of_mem member)
  unfold Number.numberWord? at reads
  split at reads
  · next lowered => exact noPoint lowered (by decide)
  · next lowered => exact noPoint lowered (by decide)
  · next lowered => exact noPoint lowered (by decide)
  · cases reads

theorem not_numeric_of_isAlpha {character : Char} (letter : character.isAlpha = true) :
    character.isDigit = false ∧ character ≠ '.' ∧ character ≠ '+' ∧ character ≠ '-' := by
  induction character using Number.ascii_cases with
  | table code ascii =>
      revert code
      decide
  | beyond character beyond => exact absurd (toNat_lt_of_isAlpha letter) beyond

/-- A letter begins no digits. -/
theorem fraction?_of_letter {first : Char} {rest : List Char} (letter : first.isAlpha = true) :
    Number.fraction? (first :: rest) = Number.numberWord? false (first :: rest) := by
  obtain ⟨noDigit, noPoint, noPlus, noMinus⟩ := not_numeric_of_isAlpha letter
  have noDigits : Number.unsignedFraction? false (first :: rest) = none := by
    rw [Number.unsignedFraction?, List.takeWhile_cons_of_neg (by simp [noDigit]),
      List.dropWhile_cons_of_neg (by simp [noDigit])]
    split
    next found =>
      split at found
      · next same => exact absurd (List.cons.inj same).1 noPoint
      · cases found
        rfl
  unfold Number.fraction?
  split
  next found =>
    split at found
    · next same => exact absurd (List.cons.inj same).1 noMinus
    · next same => exact absurd (List.cons.inj same).1 noPlus
    · cases found
      rw [noDigits, Option.none_or]

theorem not_isRespelled_of_letter {first : Char} {rest : List Char} (letter : first.isAlpha = true) :
    ¬ IsRespelled (first :: rest) := by
  intro respelled
  cases respelled with
  | zeros => cases letter
  | plus => cases letter
  | minusZero => cases letter
  | fraction pointed reads =>
      rw [fraction?_of_letter letter] at reads
      exact point_not_mem_of_numberWord? reads pointed

/-- A text that begins with a truth value is that value, or text when more follows. -/
theorem value_of_truth {text : String} {truth : Bool} {rest : List Char}
    (split : text.toList = (if truth then "true" else "false").toList ++ rest)
    (bare : ∀ character ∈ rest, isBareCharacter character = true) :
    value text = if rest = [] then .flag truth else .text text := by
  have noSpace : text.toList.dropWhile isSpace = text.toList := by
    rw [split]
    cases truth <;> rfl
  have read (fuel : Nat) : readBare? (fuel + 1) text.toList = some (.flag truth, rest) := by
    rw [split]
    cases truth <;> rfl
  rw [value, readValue?, noSpace, read, Option.map_some]
  dsimp only
  rw [dropWhile_isSpace_of_bare bare]
  split
  · next same =>
      cases same
      rfl
  · next other =>
      refine (if_neg fun none => ?_).symm
      exact other _ (by rw [none])

/-- A truth value comes back as text, and so does a text that begins with one. -/
theorem text_read_value_of_truth {text : String} {truth : Bool} {rest : List Char}
    (split : text.toList = (if truth then "true" else "false").toList ++ rest)
    (bare : ∀ character ∈ rest, isBareCharacter character = true) :
    Codec.text.read (value text) = .ok text := by
  rw [value_of_truth split bare]
  by_cases whole : rest = []
  · rw [if_pos whole]
    rw [whole, List.append_nil, String.toList_inj] at split
    exact congrArg Except.ok split.symm
  · rw [if_neg whole]
    rfl

/-- **A text of bare characters comes back unless it is respelled.** -/
theorem text_read_value_eq_ok_iff {text : String}
    (bare : ∀ character ∈ text.toList, isBareCharacter character = true) :
    Codec.text.read (value text) = .ok text ↔ ¬ IsRespelled text.toList := by
  by_cases isTruth : ∃ (truth : Bool) (rest : List Char),
      text.toList = (if truth then "true" else "false").toList ++ rest
  · obtain ⟨truth, rest, split⟩ := isTruth
    have noNumber : ¬ IsRespelled text.toList := by
      rw [split]
      cases truth <;> exact not_isRespelled_of_letter rfl
    refine iff_of_true (text_read_value_of_truth split fun character member => ?_) noNumber
    exact bare character (split ▸ List.mem_append_right _ member)
  · have word : value text = wordValue text.toList := by
      have read (fuel : Nat) : readBare? (fuel + 1) text.toList = some (wordValue text.toList, []) :=
        readBare?_of_bare bare (fun rest split => isTruth ⟨true, rest, split⟩)
          (fun rest split => isTruth ⟨false, rest, split⟩)
      rw [value, readValue?, dropWhile_isSpace_of_bare bare, read]
      rfl
    have whole := text_read_wordValue_eq_ok_iff (trimBlanks_of_bare bare)
    rwa [String.ofList_toList, ← word] at whole

end MemoryFabric.Environment

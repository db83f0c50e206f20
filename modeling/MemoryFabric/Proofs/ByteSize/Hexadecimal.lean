import MemoryFabric.Configuration.Codec
import MemoryFabric.Proofs.Attempt
import MemoryFabric.Proofs.Number.Digits
import Mathlib.Data.Nat.Digits.Defs

/-!
# Hexadecimal sizes

A size in hexadecimal is a marker `0x` in either case and behind it the digits of a word, with underscores
anywhere.  The reader takes every such size as the word.  It also takes some other texts: it skips further
markers and one plus in front of the digits.  Apart from these it refuses whatever is no such size.

Main statement: **`readsHexadecimal_iff`**.
-/

namespace MemoryFabric.ByteSize

set_option autoImplicit false

/-- Characters without underscores and in lower case. -/
def bare (characters : List Char) : List Char := (characters.filter (· ≠ '_')).map Char.toLower

/-- Characters are the digits of a hexadecimal number, the most significant one first. -/
def AreHexDigits (characters : List Char) (n : Nat) : Prop :=
  ∃ digits : List Nat, digits ≠ [] ∧ (∀ digit ∈ digits, digit < 16) ∧
    characters = digits.map Nat.digitChar ∧ Nat.ofDigits 16 digits.reverse = n

/-- Behind the front, characters are a hexadecimal number, its digits in either case and with underscores
anywhere. -/
def IsHexNumberBehind (front characters : List Char) (n : Nat) : Prop :=
  ∃ digits, bare characters = front ++ digits ∧ AreHexDigits digits n

/-- What the reader skips in front of digits: any number of markers, then one plus or none. -/
inductive IsSkipped : List Char → Prop
  | nothing : IsSkipped []
  | plus : IsSkipped ['+']
  | marker {front : List Char} (skipped : IsSkipped front) : IsSkipped ('0' :: 'x' :: front)

/-! ## Digits -/

theorem le_foldl_digits {digits : List Nat} {value : Nat} :
    value ≤ digits.foldl (fun value digit => value * 16 + digit) value := by
  induction digits generalizing value with
  | nil => exact Nat.le_refl _
  | cons digit digits ih =>
      rw [List.foldl_cons]
      exact Nat.le_trans (by omega) ih

theorem ofDigits_reverse {digits : List Nat} :
    Nat.ofDigits 16 digits.reverse = digits.foldl (fun value digit => value * 16 + digit) 0 := by
  rw [Nat.ofDigits_eq_foldr, List.foldr_reverse]
  simp only [Nat.cast_id, Nat.mul_comm, Nat.add_comm]

/-- **Digits are read as the number that they denote**, as long as it is a word. -/
theorem hexFrom_eq_ok_iff {characters : List Char} {value : Nat} (fits : value < Word.count)
    {word : UInt64} :
    hexFrom value characters = .ok word ↔ ∃ digits : List Nat, (∀ digit ∈ digits, digit < 16) ∧
      characters.map Char.toLower = digits.map Nat.digitChar ∧
        digits.foldl (fun value digit => value * 16 + digit) value = word.toNat := by
  induction characters generalizing value with
  | nil =>
      rw [hexFrom]
      constructor
      · rintro ⟨⟩
        exact ⟨[], nofun, rfl, (Word.toNat_ofNat fits).symm⟩
      · rintro ⟨digits, _, same, denoted⟩
        obtain rfl : digits = [] := List.map_eq_nil_iff.1 same.symm
        rw [List.foldl_nil] at denoted
        rw [denoted, UInt64.ofNat_toNat]
  | cons character rest ih =>
      have isDigit {digit : Nat} : Number.digit? 16 character = some digit ↔
        digit < 16 ∧ character.toLower = Nat.digitChar digit := Number.digit?_eq_some_iff (Nat.le_refl _)
      -- The digits of the whole are the first one and those of the rest.
      have split : (∃ digits : List Nat, (∀ digit ∈ digits, digit < 16) ∧
          (character :: rest).map Char.toLower = digits.map Nat.digitChar ∧
            digits.foldl (fun value digit => value * 16 + digit) value = word.toNat) ↔
          ∃ first, Number.digit? 16 character = some first ∧ ∃ digits : List Nat,
            (∀ digit ∈ digits, digit < 16) ∧ rest.map Char.toLower = digits.map Nat.digitChar ∧
              digits.foldl (fun value digit => value * 16 + digit) (value * 16 + first) = word.toNat := by
        constructor
        · rintro ⟨_ | ⟨first, digits⟩, small, same, denoted⟩
          · cases same
          · obtain ⟨here, later⟩ := List.cons.inj same
            obtain ⟨first_small, small⟩ := List.forall_mem_cons.1 small
            exact ⟨first, isDigit.2 ⟨first_small, here⟩, digits, small, later, denoted⟩
        · rintro ⟨first, known, digits, small, later, denoted⟩
          obtain ⟨first_small, here⟩ := isDigit.1 known
          exact ⟨first :: digits, List.forall_mem_cons.2 ⟨first_small, small⟩,
            by rw [List.map_cons, List.map_cons, here, later], denoted⟩
      rw [split, hexFrom]
      cases known : Number.digit? 16 character with
      | none => simp
      | some digit =>
          simp only [Option.some.injEq, exists_eq_left']
          split
          · next inside => exact ih inside
          · next outside =>
              refine iff_of_false nofun ?_
              rintro ⟨digits, _, _, denoted⟩
              have le : value * 16 + digit ≤ word.toNat := denoted ▸ le_foldl_digits
              exact outside (Nat.lt_of_le_of_lt le (Word.toNat_lt_count word))

theorem AreHexDigits.not_mem {characters : List Char} {n : Nat} (areDigits : AreHexDigits characters n)
    {character : Char} (none : ∀ digit < 16, Nat.digitChar digit ≠ character) :
    character ∉ characters := by
  obtain ⟨digits, _, small, rfl, _⟩ := areDigits
  intro member
  obtain ⟨digit, digit_mem, same⟩ := List.mem_map.1 member
  exact none digit (small digit digit_mem) same

/-- Characters in lower case are read when they are digits of a word. -/
theorem hexFrom_zero_eq_ok_iff {characters : List Char} (lower : ∀ character ∈ characters,
    character.toLower = character) (nonempty : characters ≠ []) {word : UInt64} :
    hexFrom 0 characters = .ok word ↔ AreHexDigits characters word.toNat := by
  have same : characters.map Char.toLower = characters :=
    (List.map_congr_left lower).trans (List.map_id _)
  rw [hexFrom_eq_ok_iff (by decide), same]
  constructor
  · rintro ⟨digits, small, rfl, denoted⟩
    exact ⟨digits, fun none => nonempty (by rw [none, List.map_nil]), small, rfl,
      ofDigits_reverse.trans denoted⟩
  · rintro ⟨digits, _, small, rfl, denoted⟩
    exact ⟨digits, small, rfl, ofDigits_reverse.symm.trans denoted⟩

/-! ## Markers -/

/-- One marker more changes nothing. -/
theorem hexWord_marker {characters : List Char} :
    hexWord ('0' :: 'x' :: '0' :: 'x' :: characters) = hexWord ('0' :: 'x' :: characters) := rfl

/-- What stands behind the last marker is left. -/
theorem dropMarkers_of_unmarked {characters : List Char} (plain : '_' ∉ characters)
    (unmarked : ∀ rest, characters ≠ '0' :: 'x' :: rest) :
    dropMarkers (('0' :: 'x' :: characters).filter (· ≠ '_')) = characters := by
  have kept : characters.filter (· ≠ '_') = characters :=
    List.filter_eq_self.2 fun _ member => decide_eq_true fun same => plain (same ▸ member)
  rw [List.filter_cons_of_pos (by decide), List.filter_cons_of_pos (by decide), kept, dropMarkers,
    dropMarkers]
  exact unmarked

/-- In front of digits and behind the last marker, only a plus is skipped. -/
theorem isSkipped_iff_of_unmarked {characters : List Char}
    (unmarked : ∀ rest, characters ≠ '0' :: 'x' :: rest) {n : Nat} :
    (∃ front digits, characters = front ++ digits ∧ IsSkipped front ∧ AreHexDigits digits n) ↔
      AreHexDigits characters n ∨ ∃ digits, characters = '+' :: digits ∧ AreHexDigits digits n := by
  constructor
  · rintro ⟨front, digits, split, skipped, areDigits⟩
    cases skipped with
    | nothing => exact .inl (split ▸ areDigits)
    | plus => exact .inr ⟨digits, split, areDigits⟩
    | marker skipped => exact absurd split (unmarked _)
  · rintro (areDigits | ⟨digits, rfl, areDigits⟩)
    · exact ⟨[], characters, rfl, .nothing, areDigits⟩
    · exact ⟨['+'], digits, rfl, .plus, areDigits⟩

theorem AreHexDigits.ne_nil {characters : List Char} {n : Nat} (areDigits : AreHexDigits characters n) :
    characters ≠ [] := by
  obtain ⟨digits, nonempty, _, rfl, _⟩ := areDigits
  exact fun none => nonempty (List.map_eq_nil_iff.1 none)

/-- **What the reader takes behind a marker.** -/
theorem hexWord_eq_ok_iff {characters : List Char} (plain : '_' ∉ characters)
    (lower : ∀ character ∈ characters, character.toLower = character) {word : UInt64} :
    hexWord ('0' :: 'x' :: characters) = .ok word ↔
      ∃ front digits, characters = front ++ digits ∧ IsSkipped front ∧
        AreHexDigits digits word.toNat := by
  induction characters using dropMarkers.induct with
  | case1 rest ih =>
      have plain_rest : '_' ∉ rest :=
        fun member => plain (List.mem_cons_of_mem _ (List.mem_cons_of_mem _ member))
      have lower_rest : ∀ character ∈ rest, character.toLower = character := fun character member =>
        lower character (List.mem_cons_of_mem _ (List.mem_cons_of_mem _ member))
      rw [hexWord_marker, ih plain_rest lower_rest]
      constructor
      · rintro ⟨front, digits, rfl, skipped, areDigits⟩
        exact ⟨'0' :: 'x' :: front, digits, rfl, .marker skipped, areDigits⟩
      · rintro ⟨front, digits, split, skipped, areDigits⟩
        cases skipped with
        | nothing =>
            have unmarked : 'x' ∉ digits := areDigits.not_mem (by decide)
            rw [List.nil_append] at split
            exact absurd (split ▸ by simp) unmarked
        | plus => cases split
        | marker skipped =>
            cases split
            exact ⟨_, digits, rfl, skipped, areDigits⟩
  | case2 characters unmarked =>
      rw [isSkipped_iff_of_unmarked unmarked, hexWord, dropMarkers_of_unmarked plain unmarked]
      -- Digits are no plus, so at most one of the two sides of the disjunction can hold.
      have unsigned {characters : List Char} (areDigits : AreHexDigits characters word.toNat) :
          '+' ∉ characters := areDigits.not_mem (by decide)
      split
      · refine iff_of_false nofun ?_
        rintro (areDigits | ⟨_, split, _⟩)
        · exact areDigits.ne_nil rfl
        · cases split
      · refine iff_of_false nofun ?_
        rintro (areDigits | ⟨digits, split, areDigits⟩)
        · exact unsigned areDigits (by simp)
        · cases split
          exact areDigits.ne_nil rfl
      · next rest nonempty =>
        have lower_rest : ∀ character ∈ rest, character.toLower = character :=
          fun character member => lower character (List.mem_cons_of_mem _ member)
        rw [hexFrom_zero_eq_ok_iff lower_rest (by rintro rfl; exact nonempty rfl)]
        constructor
        · exact fun areDigits => .inr ⟨rest, rfl, areDigits⟩
        · rintro (areDigits | ⟨digits, split, areDigits⟩)
          · exact absurd (by simp) (unsigned areDigits)
          · cases split
            exact areDigits
      · next nonempty _ plusless =>
        rw [hexFrom_zero_eq_ok_iff lower nonempty]
        refine (or_iff_left ?_).symm
        rintro ⟨digits, split, _⟩
        exact plusless digits split

/-! ## Texts -/

theorem bare_eq {characters : List Char} :
    bare characters = (characters.map Char.toLower).filter (· ≠ '_') := by
  rw [bare, List.filter_map]
  refine congrArg (List.map Char.toLower) (List.filter_congr fun character _ => ?_)
  exact decide_eq_decide.2 Number.toLower_eq_underscore_iff.symm.not

theorem underscore_not_mem_bare {characters : List Char} : '_' ∉ bare characters := by
  rw [bare_eq, List.mem_filter]
  exact fun kept => of_decide_eq_true kept.2 rfl

theorem toLower_of_mem_bare {characters : List Char} :
    ∀ character ∈ bare characters, character.toLower = character := by
  intro character member
  obtain ⟨original, _, rfl⟩ := List.mem_map.1 member
  exact Number.toLower_toLower

/-- The case of what is behind the marker makes no difference, and neither do underscores. -/
theorem hexWord_map_toLower {characters : List Char} :
    hexWord ('0' :: 'x' :: characters.map Char.toLower) = hexWord ('0' :: 'x' :: bare characters) := by
  rw [bare_eq, hexWord, hexWord]
  congr 2
  rw [List.filter_cons_of_pos (by decide), List.filter_cons_of_pos (by decide),
    List.filter_cons_of_pos (by decide), List.filter_cons_of_pos (by decide), List.filter_filter]
  simp only [Bool.and_self]

/-- **What a setting takes as a hexadecimal size.** -/
theorem size_read_eq_ok_iff {text : String} {marker : Char} {body : List Char}
    (isMarker : marker = 'x' ∨ marker = 'X') (split : text.toList = '0' :: marker :: body)
    {word : UInt64} :
    Codec.size.read (.text text) = .ok word ↔
      ∃ front, IsSkipped front ∧ IsHexNumberBehind front body word.toNat := by
  have lowered : text.toList.map Char.toLower = '0' :: 'x' :: body.map Char.toLower := by
    rw [split]
    rcases isMarker with rfl | rfl <;> rfl
  have reads : read text =
      (hexWord ('0' :: 'x' :: body.map Char.toLower)).mapError (.hexadecimal text) := by
    rw [read, lowered]
    rfl
  show (read text).mapError ValueError.size = .ok word ↔ _
  rw [Attempt.mapError_eq_ok_iff, reads, Attempt.mapError_eq_ok_iff, hexWord_map_toLower,
    hexWord_eq_ok_iff underscore_not_mem_bare toLower_of_mem_bare]
  constructor
  · rintro ⟨front, digits, split, skipped, areDigits⟩
    exact ⟨front, skipped, digits, split, areDigits⟩
  · rintro ⟨front, skipped, digits, split, areDigits⟩
    exact ⟨front, digits, split, skipped, areDigits⟩

/-- What is skipped is no digit. -/
theorem IsSkipped.not_areHexDigits {front digits : List Char} (skipped : IsSkipped front)
    (some_skipped : front ≠ []) {n : Nat} : ¬ AreHexDigits (front ++ digits) n := by
  intro areDigits
  have noPlus : '+' ∉ front ++ digits := areDigits.not_mem (by decide)
  have noMarker : 'x' ∉ front ++ digits := areDigits.not_mem (by decide)
  cases skipped with
  | nothing => exact some_skipped rfl
  | plus => exact noPlus (by simp)
  | marker skipped => exact noMarker (by simp)

/-- A setting takes what is behind the marker of a text exactly when it is a hexadecimal number, and as that
number. -/
def ReadsHexadecimal (text : String) (body : List Char) : Prop :=
  ∀ word, Codec.size.read (.text text) = .ok word ↔ IsHexNumberBehind [] body word.toNat

/-- **Hexadecimal sizes are read exactly, unless something is skipped.**  Of a text that begins with a marker,
the hexadecimal words behind the marker are taken and nothing else, except where further markers or a plus
stand in front of the digits of a word. -/
theorem readsHexadecimal_iff {text : String} {marker : Char} {body : List Char}
    (isMarker : marker = 'x' ∨ marker = 'X') (split : text.toList = '0' :: marker :: body) :
    ReadsHexadecimal text body ↔
      ¬ ∃ front n, IsSkipped front ∧ front ≠ [] ∧ n < Word.count ∧ IsHexNumberBehind front body n := by
  constructor
  · rintro exactly ⟨front, n, skipped, some_skipped, fits, behind⟩
    have is_n : (UInt64.ofNat n).toNat = n := Word.toNat_ofNat fits
    have taken : Codec.size.read (.text text) = .ok (UInt64.ofNat n) :=
      (size_read_eq_ok_iff isMarker split).2 ⟨front, skipped, is_n.symm ▸ behind⟩
    obtain ⟨digits, whole, areDigits⟩ := (exactly _).1 taken
    obtain ⟨later, same, _⟩ := behind
    rw [← List.nil_append digits, ← whole, same] at areDigits
    exact skipped.not_areHexDigits some_skipped areDigits
  · intro unskipped word
    rw [size_read_eq_ok_iff isMarker split]
    constructor
    · rintro ⟨front, skipped, behind⟩
      by_cases some_skipped : front = []
      · exact some_skipped ▸ behind
      · exact absurd ⟨front, _, skipped, some_skipped, Word.toNat_lt_count word, behind⟩ unskipped
    · exact fun behind => ⟨[], .nothing, behind⟩

/-- Underscores divide the digits of a size into groups. -/
theorem readsHexadecimal_groups :
    ReadsHexadecimal "0X1000_000a" "1000_000a".toList ∧
      Codec.size.read (.text "0X1000_000a") = .ok 0x1000000a := by
  refine ⟨(readsHexadecimal_iff (.inr rfl) (by decide)).2 ?_, rfl⟩
  rintro ⟨front, n, skipped, some_skipped, _, digits, split, _⟩
  have begins : bare "1000_000a".toList = "1000000a".toList := by decide
  rw [begins] at split
  cases skipped with
  | nothing => exact some_skipped rfl
  | plus => cases split
  | marker skipped => cases split

/-- A second marker is skipped, and so is a plus: these texts are no hexadecimal numbers behind their markers,
but they are taken. -/
theorem not_readsHexadecimal_second_marker :
    Codec.size.read (.text "0x0x10") = .ok 16 ∧ ¬ ReadsHexadecimal "0x0x10" "0x10".toList ∧
      Codec.size.read (.text "0x+10") = .ok 16 ∧ ¬ ReadsHexadecimal "0x+10" "+10".toList := by
  have refused (text : String) (body : List Char) (taken : Codec.size.read (.text text) = .ok 16)
      (skips : 'x' ∈ bare body ∨ '+' ∈ bare body) : ¬ ReadsHexadecimal text body := by
    intro exactly
    obtain ⟨digits, whole, areDigits⟩ := (exactly 16).1 taken
    have noMarker : 'x' ∉ digits := areDigits.not_mem (by decide)
    have noPlus : '+' ∉ digits := areDigits.not_mem (by decide)
    rw [List.nil_append] at whole
    exact skips.elim (whole ▸ noMarker) (whole ▸ noPlus)
  have second : Codec.size.read (.text "0x0x10") = .ok 16 := rfl
  have signed : Codec.size.read (.text "0x+10") = .ok 16 := rfl
  exact ⟨second, refused _ _ second (by decide), signed, refused _ _ signed (by decide)⟩

end MemoryFabric.ByteSize

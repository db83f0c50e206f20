/-!
# Blanks

The characters with the White_Space property, and trimming by them.
-/

namespace MemoryFabric.Text

set_option autoImplicit false

/-- Whether a character has the White_Space property. -/
def isBlank (character : Char) : Bool :=
  let code := character.toNat
  (9 ≤ code && code ≤ 13) || code = 0x20 || code = 0x85 || code = 0xa0 || code = 0x1680 ||
    (0x2000 ≤ code && code ≤ 0x200a) || code = 0x2028 || code = 0x2029 || code = 0x202f ||
    code = 0x205f || code = 0x3000

/-- The characters without the blanks at either end. -/
def trimBlanks (characters : List Char) : List Char :=
  ((characters.dropWhile isBlank).reverse.dropWhile isBlank).reverse

theorem dropWhile_isBlank {characters : List Char}
    (first : ∀ character ∈ characters.head?, isBlank character = false) :
    characters.dropWhile isBlank = characters := by
  cases characters with
  | nil => rfl
  | cons head tail => rw [List.dropWhile_cons, first head rfl, if_neg Bool.false_ne_true]

/-- Nothing is trimmed where there are no blanks at the ends. -/
theorem trimBlanks_of_ends {characters : List Char}
    (first : ∀ character ∈ characters.head?, isBlank character = false)
    (last : ∀ character ∈ characters.getLast?, isBlank character = false) :
    trimBlanks characters = characters := by
  rw [← List.head?_reverse] at last
  rw [trimBlanks, dropWhile_isBlank first, dropWhile_isBlank last, List.reverse_reverse]

end MemoryFabric.Text

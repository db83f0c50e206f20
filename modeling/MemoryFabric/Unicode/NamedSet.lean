import MemoryFabric.Unicode.Property
import MemoryFabric.Unicode.SharedCharacter
import MemoryFabric.Unicode.Version

/-!
# Sets of characters by name

The sets of characters that have names: those of a property, a category or a script, and those for which a
property has a certain value.  Names are compared without regard to case, gaps, underscores, dashes and
characters beyond ASCII, and an `is` in front of a name does not count.
-/

namespace MemoryFabric.NamedSet

set_option autoImplicit false

/-- Whether a name begins with `is` in any case. -/
def beginsWithIs : List Char → Bool
  | first :: second :: _ => first.toLower = 'i' && second.toLower = 's'
  | _ => false

/-- The form in which names are compared.  The name `isc` is a name by itself. -/
def plainName (name : String) : String :=
  let characters := name.toList
  let isMarked := beginsWithIs characters
  let rest := if isMarked then characters.drop 2 else characters
  let kept := rest.filter fun character =>
    character.toNat < 0x80 && character ≠ ' ' && character ≠ '_' && character ≠ '-'
  let plain := String.ofList (kept.map Char.toLower)
  if isMarked && plain = "c" then "isc" else plain

/-- The characters of a category or of a group of categories. -/
def category? (name : String) : Option CharacterSet :=
  match name with
  | "any" => some .all
  | "assigned" => some Category.unassigned.set.complement
  | "ascii" => some (.ofText "0-7f")
  | _ => (Category.named? name).map Category.setOf

/-- The characters of a script. -/
def script? (name : String) : Option CharacterSet := (WritingSystem.named? name).map WritingSystem.set

/-- The set of a name: of a property, of a category or of a script.  Three names of categories are short names
of other properties as well. -/
def named? (name : String) : Option CharacterSet :=
  let name := plainName name
  let isCategory := name = "cf" || name = "sc" || name = "lc"
  let property? := if isCategory then none else CharacterProperty.named? name
  (property?.map CharacterProperty.set).or ((category? name).or (script? name))

/-- The set of the characters for which a property has a value. -/
def valued? (property value : String) : Option CharacterSet :=
  let value := plainName value
  match plainName property with
  | "generalcategory" | "gc" => category? value
  | "script" | "sc" => script? value
  | "scriptextensions" | "scx" => (WritingSystem.named? value).map WritingSystem.usedSet
  | "age" => UnicodeVersion.set? value
  | _ => none

/-! ## Words -/

/-- Decimal digits. -/
def digits : CharacterSet := Category.decimalNumber.set

/-- White space. -/
def blanks : CharacterSet := ListedProperty.whiteSpace.set

/-- What words are made of. -/
def wordCharacters : CharacterSet :=
  .unions [CharacterProperty.alphabeticSet, ListedProperty.joinControl.set,
    Category.setOf (.decimalNumber :: .connectorPunctuation :: Category.mark)]

end MemoryFabric.NamedSet

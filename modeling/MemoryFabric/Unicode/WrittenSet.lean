import MemoryFabric.Text.Hexadecimal
import MemoryFabric.Unicode.CharacterSet

/-!
# Written sets of characters

The tables of this library write a set of characters as hexadecimal codes between blanks.  Two codes with a
dash between them are a range; with a colon between them they are every second code of a range, as capital
and small letters often alternate.
-/

namespace MemoryFabric.CharacterSet

set_option autoImplicit false

/-- The state of reading a written set. -/
structure SetReader where
  /-- The ranges that have been read. -/
  ranges : List (Nat × Nat)
  /-- The first code of a range that is being read, and whether it takes every second code only. -/
  first : Option (Nat × Bool)
  /-- The code that is being read. -/
  code : Option Nat

namespace SetReader

/-- Every second code from a first to a last one. -/
def everySecond (first last : Nat) : List (Nat × Nat) :=
  (List.range ((last - first) / 2 + 1)).map fun i => (first + 2 * i, first + 2 * i)

/-- Finish the range that is being read. -/
def finish (reader : SetReader) : SetReader :=
  let ranges :=
    match reader.first, reader.code with
    | _, none => []
    | none, some code => [(code, code)]
    | some (first, false), some last => [(first, last)]
    | some (first, true), some last => everySecond first last
  ⟨ranges ++ reader.ranges, none, none⟩

/-- Read one more character. -/
def read (reader : SetReader) (character : Char) : SetReader :=
  match character with
  | '-' => { reader with first := reader.code.map fun code => (code, false), code := none }
  | ':' => { reader with first := reader.code.map fun code => (code, true), code := none }
  | _ =>
    match Text.hexDigit? character with
    | some digit => { reader with code := some (reader.code.getD 0 * 16 + digit) }
    | none => reader.finish

end SetReader

/-- The set that a text describes. -/
def ofText (text : String) : CharacterSet :=
  ofRanges (text.foldl SetReader.read ⟨[], none, none⟩).finish.ranges

end MemoryFabric.CharacterSet

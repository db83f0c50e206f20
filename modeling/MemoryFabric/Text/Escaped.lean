import MemoryFabric.Text.Hexadecimal

/-!
# Escaped characters

Reading what stands behind a backslash: a letter for a control character, a quote, a backslash, or the code
of a character in hexadecimal digits.  Control characters other than the tab always need an escape.
-/

namespace MemoryFabric.Text

set_option autoImplicit false

/-- Whether a character may stand in a line without an escape. -/
def isVisible (character : Char) : Bool :=
  character = '\t' || (0x20 ≤ character.toNat && character.toNat ≠ 0x7f)

/-- The character of a code in hexadecimal digits; surrogates are no characters. -/
def characterOfHex? (digits : List Char) : Option Char := do
  let values ← digits.mapM hexDigit?
  let code := values.foldl (fun code digit => code * 16 + digit) 0
  if code < 0xd800 || (0xdfff < code && code ≤ 0x10ffff) then some (Char.ofNat code) else none

/-- The character of the given number of digits at the front. -/
def readHex? (length : Nat) (characters : List Char) : Option Char :=
  if characters.length < length then none else characterOfHex? (characters.take length)

/-- The character behind a backslash, with the number of characters that stand for it. -/
def readEscape? : List Char → Option (Char × Nat)
  | 'b' :: _ => some ('\x08', 1)
  | 't' :: _ => some ('\t', 1)
  | 'n' :: _ => some ('\n', 1)
  | 'f' :: _ => some ('\x0c', 1)
  | 'r' :: _ => some ('\r', 1)
  | '"' :: _ => some ('"', 1)
  | '\\' :: _ => some ('\\', 1)
  | 'u' :: rest => (readHex? 4 rest).map fun character => (character, 5)
  | 'U' :: rest => (readHex? 8 rest).map fun character => (character, 9)
  | _ => none

end MemoryFabric.Text

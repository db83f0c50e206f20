import MemoryFabric.Text.Unprinted

/-!
# Quoted text

Messages show a text between double quotes, with a backslash before a quote or a backslash, short forms
for the common control characters and code points for other characters that cannot be seen.
-/

namespace MemoryFabric.Text

set_option autoImplicit false

/-- The written form of one character between the given quotes. -/
def quoteCharacter (quote character : Char) : String :=
  if character = '\x00' then "\\0"
  else if character = '\t' then "\\t"
  else if character = '\r' then "\\r"
  else if character = '\n' then "\\n"
  else if character = '\\' || character = quote then String.ofList ['\\', character]
  else if character.toNat < 0x20 || character.toNat = 0x7f
      || (0x7f < character.toNat && isUnprinted character) then
    "\\u\x7b" ++ String.ofList (Nat.toDigits 16 character.toNat) ++ "\x7d"
  else String.singleton character

/-- A text between double quotes. -/
def quoted (text : String) : String :=
  "\"" ++ String.join (text.toList.map (quoteCharacter '"')) ++ "\""

/-- A character between single quotes. -/
def quotedCharacter (character : Char) : String :=
  "'" ++ quoteCharacter '\'' character ++ "'"

end MemoryFabric.Text

import MemoryFabric.Text.Blank
import MemoryFabric.Text.Hexadecimal
import MemoryFabric.Pattern.Written

/-!
# Reading the characters of a pattern

The state of reading a pattern, and what a backslash and the characters behind it stand for.  A pattern can
be written with white space and comments between its parts; whether they count is part of the state.
-/

namespace MemoryFabric

set_option autoImplicit false

/-- The state of reading a pattern. -/
structure PatternReader where
  rest : List Char
  /-- Whether white space and comments do not count. -/
  isSpaced : Bool
  /-- The names of the groups so far. -/
  names : List String

/-- Work that reads a pattern, or finds that it is none. -/
abbrev PatternReading := StateT PatternReader Option

namespace PatternReading

/-- The next character. -/
def peek : PatternReading (Option Char) := do return (← get).rest.head?

/-- The character behind the next one. -/
def peekSecond : PatternReading (Option Char) := do return (← get).rest.tail.head?

/-- Skip the next character. -/
def skip : PatternReading Unit := modify fun reader => { reader with rest := reader.rest.tail }

/-- The characters behind white space and comments; a comment reaches to the end of its line. -/
def dropGaps (inComment : Bool) : List Char → List Char
  | [] => []
  | character :: rest =>
    if inComment then dropGaps (character ≠ '\n') rest
    else if Text.isBlank character then dropGaps false rest
    else if character = '#' then dropGaps true rest
    else character :: rest

/-- Skip white space and comments if they do not count. -/
def skipGaps : PatternReading Unit :=
  modify fun reader =>
    if reader.isSpaced then { reader with rest := dropGaps false reader.rest } else reader

/-- Skip the next character and the gap behind it. -/
def skipWithGap : PatternReading Unit := do
  skip
  skipGaps

/-- The next character, which must be there. -/
def peekSome : PatternReading Char := do
  match ← peek with
  | some character => return character
  | none => failure

/-- Skip the next character and the gap behind it; something must follow. -/
def skipToSome : PatternReading Unit := do
  skipWithGap
  discard peekSome

/-- Skip a character that must come next. -/
def skipOnly (character : Char) : PatternReading Unit := do
  if (← peek) ≠ some character then failure
  skip

/-- Skip a text if it comes next, and tell whether it did. -/
def skipText (text : String) : PatternReading Bool := do
  let reader ← get
  if text.toList.isPrefixOf reader.rest then
    set { reader with rest := reader.rest.drop text.length }
    return true
  else return false

/-- Read characters that satisfy a condition, with gaps between them. -/
def readWhile (condition : Char → Bool) : Nat → PatternReading (List Char)
  | 0 => return []
  | fuel + 1 => do
    match ← peek with
    | some character =>
      if condition character then
        skipWithGap
        return character :: (← readWhile condition fuel)
      else return []
    | none => return []

/-- Read all characters that satisfy a condition, with gaps between them. -/
def readAllWhile (condition : Char → Bool) : PatternReading (List Char) := do
  readWhile condition (← get).rest.length

/-! ## Codes -/

/-- The character of hexadecimal digits. -/
def characterOfDigits (digits : List Char) : PatternReading Char := do
  let values ← (digits.mapM Text.hexDigit? : Option (List Nat))
  let code := values.foldl (fun code digit => code * 16 + digit) 0
  if code < 0xd800 || (0xdfff < code && code ≤ 0x10ffff) then return Char.ofNat code else failure

/-- Read a number of digits of a code, with gaps between them. -/
def readDigits : Nat → PatternReading (List Char)
  | 0 => return []
  | count + 1 => do
    let digit ← peekSome
    skipWithGap
    return digit :: (← readDigits count)

/-- Read a code behind the letter that says how many digits it has; between braces it has any number of
digits. -/
def readCode (count : Nat) : PatternReading WrittenCharacter := do
  skipToSome
  if (← peek) = some '{' then
    skipWithGap
    let digits ← readAllWhile (· ≠ '}')
    skipOnly '}'
    skipGaps
    if digits.isEmpty then failure
    return ⟨← characterOfDigits digits, false⟩
  else return ⟨← characterOfDigits (← readDigits count), count = 2⟩

/-! ## Properties -/

/-- The name of a set between braces: a name alone, or a property and its value. -/
def queryOf (name : List Char) : PropertyQuery :=
  let split (mark : Char) (skipped : Nat) : PropertyQuery :=
    let property := name.takeWhile (· ≠ mark)
    .valued (String.ofList property) (String.ofList (name.drop (property.length + skipped)))
  let hasUnequal := (name.zip name.tail).any fun pair => pair = ('!', '=')
  if hasUnequal then
    let count := ((name.zip name.tail).takeWhile fun pair => pair ≠ ('!', '=')).length
    .valued (String.ofList (name.take count)) (String.ofList (name.drop (count + 2)))
  else if name.contains ':' then split ':' 1
  else if name.contains '=' then split '=' 1
  else .named (String.ofList name)

/-- Read the name of a set behind the letter that announces it: one letter, or a name between braces. -/
def readQuery : PatternReading PropertyQuery := do
  skipToSome
  let first ← peekSome
  if first = '{' then
    skipWithGap
    let name ← readAllWhile (· ≠ '}')
    skipOnly '}'
    return queryOf name
  else if first = '\\' then failure
  else
    skipWithGap
    return .named (String.singleton first)

/-! ## Escapes -/

/-- What one character or one escape stands for. -/
inductive PatternItem where
  | character (character : WrittenCharacter)
  | look (look : WrittenLook)
  | members (members : WrittenClass)

/-- Whether a character stands for itself behind a backslash. -/
def canBeEscaped (character : Char) : Bool :=
  character.toNat < 0x80 && !character.isAlphanum && character ≠ '<' && character ≠ '>'

/-- The control characters that have a letter. -/
def controlOf? : Char → Option Char
  | 'a' => some '\x07'
  | 'f' => some '\x0c'
  | 't' => some '\t'
  | 'n' => some '\n'
  | 'r' => some '\r'
  | 'v' => some '\x0b'
  | _ => none

/-- The conditions on a place that have a letter. -/
def lookOf? : Char → Option WrittenLook
  | 'A' => some .textStart
  | 'z' => some .textEnd
  | 'B' => some .wordInside
  | '<' => some .wordStart
  | '>' => some .wordFinish
  | _ => none

/-- The classes that have a letter; a capital stands for all other characters. -/
def commonOf? : Char → Option WrittenClass
  | 'd' => some (.common false .digit)
  | 'D' => some (.common true .digit)
  | 's' => some (.common false .blank)
  | 'S' => some (.common true .blank)
  | 'w' => some (.common false .word)
  | 'W' => some (.common true .word)
  | _ => none

/-- The condition of a name. -/
def wordLookOf? : String → Option WrittenLook
  | "start" => some .wordStart
  | "end" => some .wordFinish
  | "start-half" => some .wordStartHalf
  | "end-half" => some .wordFinishHalf
  | _ => none

/-- Read what can follow the letter for the edge of a word: a name between braces.  Braces with anything else
in them are left for a repetition. -/
def readWordLook : PatternReading WrittenLook := do
  let isNameCharacter (character : Char) : Bool := character.isAlpha || character = '-'
  if (← peek) ≠ some '{' then return .wordEdge
  let reader ← get
  skipWithGap
  if !isNameCharacter (← peekSome) then
    set reader
    return .wordEdge
  let name ← readAllWhile isNameCharacter
  skipOnly '}'
  (wordLookOf? (String.ofList name) : Option WrittenLook)

/-- Read a letter that stands by itself behind a backslash. -/
def readLetter (character : Char) : PatternReading PatternItem := do
  skip
  if canBeEscaped character then return .character ⟨character, false⟩
  match controlOf? character, lookOf? character, commonOf? character with
  | some control, _, _ => return .character ⟨control, false⟩
  | _, some look, _ => return .look look
  | _, _, some members => return .members members
  | none, none, none => if character = 'b' then return .look (← readWordLook) else failure

/-- Read an escape from its backslash on. -/
def readEscape : PatternReading PatternItem := do
  skip
  let character ← peekSome
  match character with
  | 'x' => return .character (← readCode 2)
  | 'u' => return .character (← readCode 4)
  | 'U' => return .character (← readCode 8)
  | 'p' => return .members (.property false (← readQuery))
  | 'P' => return .members (.property true (← readQuery))
  | _ => readLetter character

end PatternReading

end MemoryFabric

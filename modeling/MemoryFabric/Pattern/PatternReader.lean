import MemoryFabric.Pattern.ClassReader
import MemoryFabric.Unicode.Property

/-!
# Reading written patterns

Reading a pattern as it is written: alternatives of parts, which are characters, classes, conditions and
groups with repetitions behind them.
-/

namespace MemoryFabric.PatternReading

set_option autoImplicit false

/-! ## Options -/

/-- The option of a letter. -/
def optionOf? : Char → Option PatternOption
  | 'i' => some .anyCase
  | 'm' => some .lines
  | 's' => some .pointsAtBreaks
  | 'U' => some .fewRounds
  | 'u' => some .unicode
  | 'R' => some .carriageReturns
  | 'x' => some .spaced
  | _ => none

/-- The options of letters: those in front of a dash are turned on, those behind it are turned off.  No
option is named twice, and something must follow a dash. -/
def optionChange? (letters : List Char) : Option OptionChange := do
  let on := letters.takeWhile (· ≠ '-')
  let off := letters.drop (on.length + 1)
  if letters.contains '-' && off.isEmpty then none
  let turnedOn ← on.mapM optionOf?
  let turnedOff ← off.mapM optionOf?
  if !(turnedOn ++ turnedOff).Nodup then none
  return (turnedOn.map fun option => (option, true)) ++
    (turnedOff.map fun option => (option, false))

/-- Let a change of options say whether white space counts. -/
def applySpacing (change : OptionChange) : PatternReading Unit :=
  modify fun reader =>
    { reader with isSpaced := (change.lookup .spaced).getD reader.isSpaced }

/-! ## Groups -/

/-- Whether a character can begin the name of a group. -/
def beginsGroupName (character : Char) : Bool :=
  character = '_' || CharacterProperty.alphabeticSet.contains character

/-- Whether a character can occur in the name of a group. -/
def isInGroupName (character : Char) : Bool :=
  beginsGroupName character || ['.', '[', ']'].contains character ||
    (Category.setOf Category.number).contains character

/-- Read the name of a group, which no other group has, and the bracket behind it. -/
def readGroupName : PatternReading Unit := do
  let reader ← get
  let name := reader.rest.takeWhile (· ≠ '>')
  let isName :=
    match name with
    | [] => false
    | first :: rest => beginsGroupName first && rest.all isInGroupName
  if !isName || reader.names.contains (String.ofList name) then failure
  set { reader with
    rest := reader.rest.drop name.length
    names := String.ofList name :: reader.names }
  skipOnly '>'

/-- The begin of a group. -/
inductive GroupStart where
  /-- Not a group, but a change of options for what follows. -/
  | options (change : OptionChange)
  | group (isKept : Bool) (change : OptionChange)

/-- Read the begin of a group from its parenthesis on. -/
def readGroupStart : PatternReading GroupStart := do
  skipWithGap
  if ← skipText "?P<" then
    readGroupName
    return .group true []
  else if ← skipText "?<" then
    readGroupName
    return .group true []
  else if ← skipText "?" then
    let reader ← get
    let letters := reader.rest.takeWhile fun character => character ≠ ':' && character ≠ ')'
    let change ← (optionChange? letters : Option OptionChange)
    set { reader with rest := reader.rest.drop letters.length }
    let ending ← peekSome
    skip
    if ending = ':' then return .group false change
    else if letters.isEmpty then failure
    else return .options change
  else return .group true []

/-! ## Repetitions -/

/-- Skip the mark that makes a repetition prefer few rounds. -/
def skipFewRounds : PatternReading Unit := do
  if (← peek) = some '?' then skip

/-- Skip white space, whether it counts or not. -/
def skipBlanks : PatternReading Unit :=
  modify fun reader => { reader with rest := reader.rest.dropWhile Text.isBlank }

/-- Read a number between blanks, if there is one. -/
def readCount : PatternReading (Option Nat) := do
  skipBlanks
  let digits ← readAllWhile Char.isDigit
  skipBlanks
  skipGaps
  if digits.isEmpty then return none
  let count := digits.foldl (fun count digit => count * 10 + (digit.toNat - '0'.toNat)) 0
  if count < 0x100000000 then return some count else failure

/-- Read the bounds of a repetition from its opening brace on. -/
def readBounds : PatternReading (Nat × Option Nat) := do
  skipToSome
  let first ← readCount
  let (least, most) ←
    match first, ← peekSome with
    | none, _ => failure
    | some least, ',' =>
      skipToSome
      if (← peek) = some '}' then pure (least, none)
      else
        match ← readCount with
        | some most => pure (least, some most)
        | none => failure
    | some least, _ => pure (least, some least)
  skipOnly '}'
  skipGaps
  skipFewRounds
  if most.all fun most => least ≤ most then return (least, most) else failure

/-- Read the repetition at the front, which is one of the four marks. -/
def readRepetition (mark : Char) : PatternReading (Nat × Option Nat) := do
  if mark = '{' then readBounds
  else
    skip
    skipFewRounds
    match mark with
    | '?' => return (0, some 1)
    | '*' => return (0, none)
    | _ => return (1, none)

/-- Put a repetition onto the latest part; a change of options cannot be repeated. -/
def repeatLatest (bounds : Nat × Option Nat) :
    List WrittenPattern → PatternReading (List WrittenPattern)
  | [] => failure
  | .options _ :: _ => failure
  | part :: parts => return .repetition part bounds.1 bounds.2 :: parts

/-! ## Patterns -/

/-- Read a part that is neither a group nor a class between brackets. -/
def readPart (character : Char) : PatternReading WrittenPattern := do
  match character with
  | '\\' =>
    match ← readEscape with
    | .character character => return .character character
    | .look look => return .look look
    | .members members => return .members members
  | '.' => skip; return .point
  | '^' => skip; return .look .lineStart
  | '$' => skip; return .look .lineEnd
  | _ => skip; return .character ⟨character, false⟩

mutual

/-- Read alternatives up to a closing parenthesis or the end. -/
def readAlternatives : Nat → PatternReading (List WrittenPattern)
  | 0 => failure
  | fuel + 1 => do
    let alternative ← readParts fuel []
    if (← peek) = some '|' then
      skip
      return alternative :: (← readAlternatives fuel)
    else return [alternative]

/-- Read parts up to the end of their alternative; `parts` are the parts so far, the latest first. -/
def readParts : Nat → List WrittenPattern → PatternReading WrittenPattern
  | 0, _ => failure
  | fuel + 1, parts => do
    skipGaps
    match ← peek with
    | none | some ')' | some '|' => return .ofParts parts.reverse
    | some '(' => readParts fuel ((← readGroup fuel) :: parts)
    | some '[' => do
      let members ← readClass (2 * (← get).rest.length)
      readParts fuel (.members members :: parts)
    | some character =>
      if ['?', '*', '+', '{'].contains character then do
        let bounds ← readRepetition character
        readParts fuel (← repeatLatest bounds parts)
      else do
        let part ← readPart character
        readParts fuel (part :: parts)

/-- Read a group, or a change of options in parentheses.  Whether white space counts is changed up to the
end of the group only. -/
def readGroup : Nat → PatternReading WrittenPattern
  | 0 => failure
  | fuel + 1 => do
    match ← readGroupStart with
    | .options change =>
      applySpacing change
      return .options change
    | .group isKept change =>
      let isSpaced := (← get).isSpaced
      applySpacing change
      let inner := WrittenPattern.ofAlternatives (← readAlternatives fuel)
      modify fun reader => { reader with isSpaced }
      skipOnly ')'
      return .group isKept change inner

end

end MemoryFabric.PatternReading

namespace MemoryFabric

/-- Read a pattern as it is written; nothing when the text is no pattern or lies too deep inside itself. -/
def WrittenPattern.read? (text : String) : Option WrittenPattern := do
  let reader : PatternReader := ⟨text.toList, false, []⟩
  let (alternatives, reader) ← (PatternReading.readAlternatives (4 * text.length + 4)).run reader
  let pattern := WrittenPattern.ofAlternatives alternatives
  if reader.rest.isEmpty && pattern.depth ≤ WrittenPattern.deepest then return pattern else none

end MemoryFabric

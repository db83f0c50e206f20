import MemoryFabric.Pattern.Reader

/-!
# Reading classes of characters

A class is written between brackets: characters, ranges, escapes, named kinds and classes inside the class,
put together by operations.
-/

namespace MemoryFabric.PatternReading

set_option autoImplicit false

/-- A named kind at the front, between brackets and colons. -/
def asciiClass? : List Char → Option (WrittenClass × List Char)
  | '[' :: ':' :: rest =>
    let isNegated := rest.head? = some '^'
    let rest := if isNegated then rest.tail else rest
    let name := rest.takeWhile (· ≠ ':')
    match rest.drop name.length with
    | ':' :: ']' :: rest =>
      (AsciiClass.named? (String.ofList name)).map fun kind => (.ascii isNegated kind, rest)
    | _ => none
  | _ => none

/-- The first character behind a gap.  Of a comment only the mark at its begin counts as a gap. -/
def afterGap (inComment : Bool) : List Char → Option Char
  | [] => none
  | character :: rest =>
    if Text.isBlank character then afterGap inComment rest
    else if !inComment && character = '#' then afterGap true rest
    else some character

/-- The character behind the next one and the gap behind it. -/
def peekAfterGap : PatternReading (Option Char) := do
  let reader ← get
  if reader.isSpaced then return (afterGap false reader.rest.tail).or reader.rest.tail.head?
  else return reader.rest.tail.head?

/-- Read one end of a range, or an item that is no range. -/
def readClassItem : PatternReading PatternItem := do
  let character ← peekSome
  if character = '\\' then readEscape
  else
    skip
    return .character ⟨character, false⟩

/-- Read an item of a class: a range, or anything that is no range.  A dash in front of another dash or of the
end of the class makes no range. -/
def readClassRange : PatternReading WrittenClass := do
  let item ← readClassItem
  skipGaps
  let after ← peekSome
  let behind ← peekAfterGap
  if after ≠ '-' || behind = some ']' || behind = some '-' then
    match item with
    | .character character => return .range character character
    | .members members => return members
    | .look _ => failure
  else
    skipToSome
    match item, ← readClassItem with
    | .character first, .character last =>
      if first.character ≤ last.character then return .range first last else failure
    | _, _ => failure

/-- Read dashes that stand for themselves at the begin of a class. -/
def readDashes : Nat → PatternReading (List WrittenClass)
  | 0 => return []
  | fuel + 1 => do
    if (← peek) = some '-' then
      skipToSome
      return .range ⟨'-', false⟩ ⟨'-', false⟩ :: (← readDashes fuel)
    else return []

/-- Read the begin of a class: whether it is negated, and the items that can stand only there.  A closing
bracket that comes first is such an item. -/
def readClassStart : PatternReading (Bool × List WrittenClass) := do
  skipToSome
  let isNegated := (← peek) = some '^'
  if isNegated then skipToSome
  let dashes ← readDashes (← get).rest.length
  if dashes.isEmpty && (← peek) = some ']' then
    skipToSome
    return (isNegated, [.range ⟨']', false⟩ ⟨']', false⟩])
  else return (isNegated, dashes)

/-- The operation that two equal characters stand for. -/
def operationOf? (first second : Option Char) : Option ClassOperation :=
  match first, second with
  | some '&', some '&' => some .inter
  | some '-', some '-' => some .difference
  | some '~', some '~' => some .symmetricDifference
  | _, _ => none

/-- A class with what stands in front of it. -/
def withPending (pending : Option (ClassOperation × WrittenClass)) (second : WrittenClass) :
    WrittenClass :=
  match pending with
  | some (operation, first) => .operation operation first second
  | none => second

mutual

/-- Read a class from its opening bracket on. -/
def readClass : Nat → PatternReading WrittenClass
  | 0 => failure
  | fuel + 1 => do
    let (isNegated, items) ← readClassStart
    return .brackets isNegated (← readClassItems fuel none items.reverse)

/-- Read the items of a class up to its closing bracket.  `items` are the items behind the latest operation,
the latest first, and `pending` is that operation with what stands in front of it. -/
def readClassItems : Nat → Option (ClassOperation × WrittenClass) → List WrittenClass →
    PatternReading WrittenClass
  | 0, _, _ => failure
  | fuel + 1, pending, items => do
    skipGaps
    let character ← peekSome
    if character = '[' then
      let reader ← get
      match asciiClass? reader.rest with
      | some (item, rest) =>
        set { reader with rest }
        readClassItems fuel pending (item :: items)
      | none =>
        let item ← readClass fuel
        readClassItems fuel pending (item :: items)
    else
      let whole := withPending pending (.ofItems items.reverse)
      if character = ']' then
        skip
        return whole
      match operationOf? character (← peekSecond) with
      | some operation =>
        skip
        skip
        readClassItems fuel (some (operation, whole)) []
      | none =>
        let item ← readClassRange
        readClassItems fuel pending (item :: items)

end

end MemoryFabric.PatternReading

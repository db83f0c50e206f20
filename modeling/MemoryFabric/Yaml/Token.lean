import MemoryFabric.Number.Literal
import MemoryFabric.Yaml.Scalar
import MemoryFabric.Yaml.Tag

/-!
# Tokens of a YAML document

A document as a list of tokens.  Indentation becomes explicit: a block begins and ends with tokens of its
own.  A key is recognised only by the colon behind it, so the place where a key may have begun is
remembered, and the tokens of a key are put in there afterwards.  Outside brackets such a key must fit one
line.  Every token knows its place, so that a mistake in the document can be pointed at.
-/

namespace MemoryFabric.Yaml

set_option autoImplicit false

/-- A part of a document. -/
inductive Token where
  | documentStart
  | documentEnd
  | version (major minor : Nat)
  /-- What a handle of tags stands for. -/
  | handle (name : String) (address : Address)
  | blockSequence
  | blockMapping
  | blockEnd
  | flowSequence
  | flowSequenceEnd
  | flowMapping
  | flowMappingEnd
  | blockEntry
  | flowEntry
  | key
  | value
  | anchor (name : String)
  | alias (name : String)
  | tag (handle : String) (suffix : Address)
  | scalar (text : String) (isPlain : Bool)
  deriving DecidableEq, Repr

/-- A token with the place where it begins. -/
structure PlacedToken where
  token : Token
  position : DocumentPosition
  deriving Repr

/-- The place where a key may have begun. -/
structure KeyPlace where
  /-- Whether nothing but a key can stand there. -/
  required : Bool
  /-- The number of tokens in front of it. -/
  tokens : Nat
  /-- The number of characters in front of it. -/
  index : Nat
  position : DocumentPosition

/-- The state of reading tokens. -/
structure Scanner where
  cursor : Cursor
  tokens : Array PlacedToken
  /-- The column of the innermost block, `-1` outside all blocks. -/
  indent : Int
  /-- The columns of the blocks around it. -/
  outerIndents : List Int
  /-- Whether a key can begin at the cursor. -/
  keyAllowed : Bool
  /-- The possible key of the innermost brackets. -/
  keyPlace : Option KeyPlace
  /-- The possible keys around each open bracket. -/
  outerKeys : List (Option KeyPlace)

namespace Scanner

/-- The state at the begin of a document. -/
def start (characters : List Char) : Scanner where
  cursor := Cursor.start characters
  tokens := #[]
  indent := -1
  outerIndents := []
  keyAllowed := true
  keyPlace := none
  outerKeys := []

/-- Whether the cursor is inside brackets. -/
def inFlow (scanner : Scanner) : Bool := !scanner.outerKeys.isEmpty

/-- Add a token that begins at the cursor. -/
def push (scanner : Scanner) (token : Token) : Scanner :=
  { scanner with tokens := scanner.tokens.push ⟨token, scanner.cursor.position⟩ }

/-- Put a token behind a number of tokens. -/
def insertAt (scanner : Scanner) (count : Nat) (token : PlacedToken) : Scanner :=
  { scanner with tokens := (scanner.tokens.toList.insertIdx count token).toArray }

/-- Move on by a number of characters. -/
def skip (scanner : Scanner) (count : Nat) : Scanner :=
  { scanner with cursor := scanner.cursor.skip count }

/-- Forget a possible key; a required key cannot be forgotten. -/
def dropKey (scanner : Scanner) : Option Scanner :=
  if scanner.keyPlace.any KeyPlace.required then none else some { scanner with keyPlace := none }

/-- Remember that a key may begin at the cursor, when it may. -/
def markKey (scanner : Scanner) : Option Scanner :=
  if !scanner.keyAllowed then some scanner
  else do
    let scanner ← scanner.dropKey
    let cursor := scanner.cursor
    return { scanner with
      keyPlace := some {
        required := !scanner.inFlow && scanner.indent = cursor.column
        tokens := scanner.tokens.size
        index := cursor.index
        position := cursor.position } }

/-- Whether a possible key has become impossible. -/
def isStale (cursor : Cursor) (place : KeyPlace) : Bool :=
  place.position.line < cursor.line || place.index + 1024 < cursor.index

/-- Forget the possible keys that have become impossible. -/
def dropStaleKeys (scanner : Scanner) : Option Scanner :=
  let stale (place : Option KeyPlace) : Bool := place.any (isStale scanner.cursor)
  let keep (place : Option KeyPlace) : Option KeyPlace := if stale place then none else place
  let required (place : Option KeyPlace) : Bool := stale place && place.any KeyPlace.required
  if required scanner.keyPlace || scanner.outerKeys.any required then none
  else
    some { scanner with
      keyPlace := keep scanner.keyPlace
      outerKeys := scanner.outerKeys.map keep }

/-- Begin a block behind a number of tokens, unless one is open at its column. -/
def openBlock (scanner : Scanner) (position : DocumentPosition) (count : Nat) (token : Token) :
    Scanner :=
  if !scanner.inFlow && scanner.indent < position.column then
    { scanner.insertAt count ⟨token, position⟩ with
      indent := position.column
      outerIndents := scanner.indent :: scanner.outerIndents }
  else scanner

/-- Begin a block at the cursor, unless one is open at its column. -/
def openBlockHere (scanner : Scanner) (token : Token) : Scanner :=
  scanner.openBlock scanner.cursor.position scanner.tokens.size token

/-- End the blocks right of a column with the given token. -/
def closeBlocksTo (column : Int) (ending : PlacedToken) (indent : Int)
    (tokens : Array PlacedToken) : List Int → Int × List Int × Array PlacedToken
  | [] => (indent, [], tokens)
  | outer :: rest =>
    if column < indent then closeBlocksTo column ending outer (tokens.push ending) rest
    else (indent, outer :: rest, tokens)

/-- End the blocks right of a column; brackets keep all blocks open. -/
def closeBlocks (scanner : Scanner) (column : Int) : Scanner :=
  if scanner.inFlow then scanner
  else
    let (indent, outerIndents, tokens) :=
      closeBlocksTo column ⟨.blockEnd, scanner.cursor.position⟩ scanner.indent scanner.tokens
        scanner.outerIndents
    { scanner with indent, outerIndents, tokens }

/-- Skip spaces, comments and empty lines; a tab does not count as a space where a key may begin. -/
def skipGaps : Nat → Scanner → Scanner
  | 0, scanner => scanner
  | fuel + 1, scanner =>
    let tabs := scanner.inFlow || !scanner.keyAllowed
    let cursor := scanner.cursor.skipByteOrderMark.skipWhile fun character =>
      character = ' ' || (tabs && character = '\t')
    let cursor := cursor.skipComment
    match cursor.rest with
    | [] => { scanner with cursor }
    | character :: _ =>
      if isBreak character then
        skipGaps fuel
          { scanner with
            cursor := cursor.next
            keyAllowed := scanner.keyAllowed || !scanner.inFlow }
      else { scanner with cursor }

/-! ## Single tokens -/

/-- A marker between documents. -/
def readMarker (scanner : Scanner) (token : Token) : Option Scanner := do
  let scanner ← (scanner.closeBlocks (-1)).dropKey
  return { (scanner.push token).skip 3 with keyAllowed := false }

/-- A number of a version at the front, of at most nine digits. -/
def readVersionNumber (characters : List Char) : Option (Nat × List Char) := do
  let digits := characters.takeWhile Char.isDigit
  if 9 < digits.length then none
  return (← Number.digits? 10 digits, characters.drop digits.length)

/-- A line that says something about the document: the version of its notation, or what a handle of its
tags stands for. -/
def readDeclaration (characters : List Char) : Option (Token × List Char) := do
  let name := characters.takeWhile Tag.isNameCharacter
  let rest := characters.drop name.length
  if !beginsWithGap rest then none
  match String.ofList name with
  | "YAML" =>
    let (major, rest) ← readVersionNumber (rest.dropWhile isSpace)
    match rest with
    | '.' :: rest =>
      let (minor, rest) ← readVersionNumber rest
      return (.version major minor, rest)
    | _ => none
  | "TAG" =>
    let (handle, rest) ← Tag.readHandle? (rest.dropWhile isSpace)
    if !rest.head?.any isSpace then none
    let (address, rest) ← Tag.readFullAddress? true (rest.dropWhile isSpace)
    if !beginsWithGap rest then none
    return (.handle handle address, rest)
  | _ => none

/-- A line that begins with a percent sign; a comment may end it. -/
def readDirective (scanner : Scanner) : Option Scanner := do
  let scanner ← (scanner.closeBlocks (-1)).dropKey
  let (token, rest) ← readDeclaration scanner.cursor.rest.tail
  let scanner := scanner.push token
  let cursor := scanner.cursor.skip (scanner.cursor.rest.length - rest.length)
  let cursor := (cursor.skipWhile isSpace).skipComment
  if !beginsWithBreak cursor.rest then none
  return { scanner with cursor := cursor.next, keyAllowed := false }

/-- An opening bracket. -/
def readOpening (scanner : Scanner) (token : Token) : Option Scanner := do
  let scanner ← scanner.markKey
  return { (scanner.push token).skip 1 with
    outerKeys := scanner.keyPlace :: scanner.outerKeys
    keyPlace := none
    keyAllowed := true }

/-- A closing bracket. -/
def readClosing (scanner : Scanner) (token : Token) : Option Scanner := do
  let scanner ← scanner.dropKey
  return { (scanner.push token).skip 1 with
    keyPlace := scanner.outerKeys.head?.join
    outerKeys := scanner.outerKeys.tail
    keyAllowed := false }

/-- A comma between brackets. -/
def readFlowEntry (scanner : Scanner) : Option Scanner := do
  let scanner ← scanner.dropKey
  return { (scanner.push .flowEntry).skip 1 with keyAllowed := true }

/-- A dash in front of an item. -/
def readBlockEntry (scanner : Scanner) : Option Scanner := do
  if !scanner.inFlow && !scanner.keyAllowed then none
  let scanner ← (scanner.openBlockHere .blockSequence).dropKey
  return { (scanner.push .blockEntry).skip 1 with keyAllowed := true }

/-- A question mark in front of a key. -/
def readKey (scanner : Scanner) : Option Scanner := do
  if !scanner.inFlow && !scanner.keyAllowed then none
  let scanner ← (scanner.openBlockHere .blockMapping).dropKey
  return { (scanner.push .key).skip 1 with keyAllowed := !scanner.inFlow }

/-- A colon in front of a value. -/
def readValue (scanner : Scanner) : Option Scanner :=
  match scanner.keyPlace with
  | some place =>
    let scanner := scanner.insertAt place.tokens ⟨.key, place.position⟩
    let scanner := scanner.openBlock place.position place.tokens .blockMapping
    some { (scanner.push .value).skip 1 with keyPlace := none, keyAllowed := false }
  | none =>
    if !scanner.inFlow && !scanner.keyAllowed then none
    else
      let scanner := scanner.openBlockHere .blockMapping
      some { (scanner.push .value).skip 1 with keyAllowed := !scanner.inFlow }

/-- Whether the name of an anchor can end here. -/
def endsName (rest : List Char) : Bool :=
  beginsWithGap rest || rest.head?.any fun c => ['?', ':', ',', ']', '}', '%', '@', '`'].contains c

/-- An anchor or an alias. -/
def readName (scanner : Scanner) (token : String → Token) : Option Scanner := do
  let scanner ← scanner.markKey
  let name := scanner.cursor.next.span Tag.isNameCharacter
  let cursor := scanner.cursor.skip (name.length + 1)
  if name.isEmpty || !endsName cursor.rest then none
  return { scanner.push (token (String.ofList name)) with cursor, keyAllowed := false }

/-- A tag; inside brackets a comma may end it. -/
def readTag (scanner : Scanner) : Option Scanner := do
  let scanner ← scanner.markKey
  let (handle, suffix, rest) ← Tag.read? scanner.cursor.rest
  if !(beginsWithGap rest || (scanner.inFlow && rest.head? = some ',')) then none
  let cursor := scanner.cursor.skip (scanner.cursor.rest.length - rest.length)
  return { scanner.push (.tag handle suffix) with cursor, keyAllowed := false }

/-- A block scalar. -/
def readBlockScalar (scanner : Scanner) (folded : Bool) : Option Scanner := do
  let scanner ← scanner.dropKey
  let (text, cursor) ← readBlock folded scanner.indent scanner.cursor.next
  return { scanner.push (.scalar (String.ofList text) false) with cursor, keyAllowed := true }

/-- A scalar between quotes. -/
def readQuotedScalar (scanner : Scanner) (quote : Char) : Option Scanner := do
  let scanner ← scanner.markKey
  let (text, cursor) ←
    readQuoted quote (scanner.cursor.rest.length + 1) [] scanner.cursor.next
  return { scanner.push (.scalar (String.ofList text) false) with cursor, keyAllowed := false }

/-- A plain scalar. -/
def readPlainScalar (scanner : Scanner) : Option Scanner := do
  let scanner ← scanner.markKey
  let scalar ←
    readPlain scanner.inFlow (scanner.indent + 1) (scanner.cursor.rest.length + 1) [] []
      scanner.cursor
  return { scanner.push (.scalar (String.ofList scalar.text) true) with
    cursor := scalar.cursor
    keyAllowed := scalar.endsLine }

/-- The characters that cannot begin a plain scalar, or only in front of a word. -/
def indicators : List Char :=
  ['-', '?', ':', ',', '[', ']', '{', '}', '#', '&', '*', '!', '|', '>', '\'', '"', '%', '@', '`']

/-- Whether a plain scalar begins with a character in front of the rest. -/
def beginsPlain (inFlow : Bool) (character : Char) (rest : List Char) : Bool :=
  !(isGap character || indicators.contains character) ||
    (character = '-' && !(rest.head?.any isSpace)) ||
    (!inFlow && (character = '?' || character = ':') && !beginsWithGap rest)

/-- Read the next token. -/
def readToken (scanner : Scanner) (character : Char) (rest : List Char) : Option Scanner :=
  let atGap := beginsWithGap rest
  let inFlow := scanner.inFlow
  if scanner.cursor.column = 0 && character = '%' then scanner.readDirective
  else if scanner.cursor.isAtMarker '-' then scanner.readMarker .documentStart
  else if scanner.cursor.isAtMarker '.' then scanner.readMarker .documentEnd
  else
    match character with
    | '[' => scanner.readOpening .flowSequence
    | '{' => scanner.readOpening .flowMapping
    | ']' => scanner.readClosing .flowSequenceEnd
    | '}' => scanner.readClosing .flowMappingEnd
    | ',' => scanner.readFlowEntry
    | '*' => scanner.readName .alias
    | '&' => scanner.readName .anchor
    | '!' => scanner.readTag
    | '\'' => scanner.readQuotedScalar '\''
    | '"' => scanner.readQuotedScalar '"'
    | _ =>
      if character = '-' && atGap then scanner.readBlockEntry
      else if character = '?' && (inFlow || atGap) then scanner.readKey
      else if character = ':' && (inFlow || atGap) then scanner.readValue
      else if character = '|' && !inFlow then scanner.readBlockScalar false
      else if character = '>' && !inFlow then scanner.readBlockScalar true
      else if beginsPlain inFlow character rest then scanner.readPlainScalar
      else none

/-- Read tokens up to the end of the document; every token takes up a character. -/
def readTokens : Nat → Scanner → Option (List PlacedToken)
  | 0, _ => none
  | fuel + 1, scanner => do
    let scanner := scanner.skipGaps (scanner.cursor.rest.length + 1)
    let scanner ← scanner.dropStaleKeys
    let scanner := scanner.closeBlocks scanner.cursor.column
    match scanner.cursor.rest with
    | [] => return (← (scanner.closeBlocks (-1)).dropKey).tokens.toList
    | character :: rest => readTokens fuel (← scanner.readToken character rest)

end Scanner

/-- The tokens of a document; nothing when it is malformed. -/
def tokens? (text : String) : Option (List PlacedToken) :=
  let characters := text.toList
  if characters.all isAllowed then
    Scanner.readTokens (characters.length + 2) (Scanner.start (normalizeBreaks characters))
  else none

end MemoryFabric.Yaml

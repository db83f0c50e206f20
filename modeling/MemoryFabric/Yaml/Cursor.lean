import MemoryFabric.Configuration.Mistake

/-!
# Positions in a YAML document

A YAML document is a list of characters with its line breaks normalised.  A cursor is a place in it: the
characters from there on, with the line and the column, on which indentation depends.
-/

namespace MemoryFabric.Yaml

set_option autoImplicit false

/-- Whether a character may occur in a document at all. -/
def isAllowed (character : Char) : Bool :=
  let code := character.toNat
  code = 0x09 || code = 0x0a || code = 0x0d || (0x20 ≤ code && code ≤ 0x7e) || code = 0x85 ||
    (0xa0 ≤ code && code ≤ 0xd7ff) || (0xe000 ≤ code && code ≤ 0xfffd) || 0x10000 ≤ code

/-- Line breaks as line feeds, except the two separators, which stay what they are. -/
def normalizeBreaks : List Char → List Char
  | '\r' :: '\n' :: rest => '\n' :: normalizeBreaks rest
  | '\r' :: rest => '\n' :: normalizeBreaks rest
  | '\x85' :: rest => '\n' :: normalizeBreaks rest
  | character :: rest => character :: normalizeBreaks rest
  | [] => []

/-- Whether a character ends a line. -/
def isBreak (character : Char) : Bool :=
  character = '\n' || character = '\u2028' || character = '\u2029'

/-- Whether a character separates words of a line. -/
def isSpace (character : Char) : Bool := character = ' ' || character = '\t'

/-- Whether a character separates words or lines. -/
def isGap (character : Char) : Bool := isSpace character || isBreak character

/-- Whether nothing, a space or a line break comes first. -/
def beginsWithGap : List Char → Bool
  | [] => true
  | character :: _ => isGap character

/-- Whether nothing or a line break comes first. -/
def beginsWithBreak : List Char → Bool
  | [] => true
  | character :: _ => isBreak character

/-- A place in a document. -/
structure Cursor where
  rest : List Char
  index : Nat
  line : Nat
  column : Nat
  deriving Repr

namespace Cursor

/-- The begin of a document. -/
def start (characters : List Char) : Cursor := ⟨characters, 0, 0, 0⟩

/-- The line and the column of a place. -/
def position (cursor : Cursor) : DocumentPosition := ⟨cursor.line, cursor.column⟩

/-- The place behind the next character. -/
def next (cursor : Cursor) : Cursor :=
  match cursor.rest with
  | [] => cursor
  | character :: rest =>
    if isBreak character then ⟨rest, cursor.index + 1, cursor.line + 1, 0⟩
    else ⟨rest, cursor.index + 1, cursor.line, cursor.column + 1⟩

/-- The place behind a number of characters. -/
def skip (cursor : Cursor) : Nat → Cursor
  | 0 => cursor
  | count + 1 => cursor.next.skip count

/-- The next characters that satisfy a condition. -/
def span (cursor : Cursor) (condition : Char → Bool) : List Char := cursor.rest.takeWhile condition

/-- The place behind the next characters that satisfy a condition. -/
def skipWhile (cursor : Cursor) (condition : Char → Bool) : Cursor :=
  cursor.skip (cursor.span condition).length

/-- Whether the line begins with three of the given character and then a gap. -/
def isAtMarker (cursor : Cursor) (character : Char) : Bool :=
  cursor.column = 0 &&
    match cursor.rest with
    | a :: b :: c :: rest => a = character && b = character && c = character && beginsWithGap rest
    | _ => false

/-- Whether the line is the begin or the end of a document. -/
def isAtDocumentMarker (cursor : Cursor) : Bool := cursor.isAtMarker '-' || cursor.isAtMarker '.'

/-- The place behind a mark of the byte order, which may begin a line. -/
def skipByteOrderMark (cursor : Cursor) : Cursor :=
  if cursor.column = 0 && cursor.rest.head? = some '\ufeff' then cursor.next else cursor

/-- The place behind a comment. -/
def skipComment (cursor : Cursor) : Cursor :=
  match cursor.rest with
  | '#' :: _ => cursor.skipWhile fun character => !isBreak character
  | _ => cursor

end Cursor

end MemoryFabric.Yaml

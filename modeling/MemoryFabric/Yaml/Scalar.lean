import MemoryFabric.Text.Escaped
import MemoryFabric.Yaml.Cursor

/-!
# Scalars of a YAML document

The three ways to write a scalar: plain, between quotes, and as an indented block.  Each reader gives the
text of the scalar and the place behind it, or nothing when the scalar is malformed.
-/

namespace MemoryFabric.Yaml

set_option autoImplicit false

/-- The text that a run of spaces and line breaks stands for: one line break is a space, each further one
is itself. -/
def foldGap (gap : List Char) : List Char :=
  match gap.filter isBreak with
  | [] => gap
  | ['\n'] => [' ']
  | '\n' :: more => more
  | breaks => breaks

/-! ## Plain scalars -/

/-- The characters that end a plain scalar inside brackets. -/
def isFlowIndicator (character : Char) : Bool :=
  character = ',' || character = '[' || character = ']' || character = '{' || character = '}'

/-- The characters up to a gap or to an end of the scalar; nothing when a colon stands directly before an
indicator inside brackets. -/
def plainWord (inFlow : Bool) : List Char → Option (List Char)
  | [] => some []
  | character :: rest =>
    if isGap character then some []
    else if character = ':' && inFlow && (rest.head?.any fun c => isFlowIndicator c || c = '?') then
      none
    else if character = ':' && beginsWithGap rest then some []
    else if inFlow && isFlowIndicator character then some []
    else (plainWord inFlow rest).map (character :: ·)

/-- Whether a tab stands in the indentation of a later line of a gap. -/
def hasEarlyTab (indent : Int) : Option Nat → List Char → Bool
  | _, [] => false
  | none, character :: rest => hasEarlyTab indent (if isBreak character then some 0 else none) rest
  | some column, character :: rest =>
    if isBreak character then hasEarlyTab indent (some 0) rest
    else if character = '\t' && (column : Int) < indent then true
    else hasEarlyTab indent (some (column + 1)) rest

/-- A plain scalar, with the place behind it and whether line breaks follow it. -/
structure PlainScalar where
  text : List Char
  cursor : Cursor
  endsLine : Bool

/-- Read the words of a plain scalar; `gap` stands before the next word and `indent` is the least column
of further lines. -/
def readPlain (inFlow : Bool) (indent : Int) :
    Nat → List Char → List Char → Cursor → Option PlainScalar
  | 0, _, _, _ => none
  | fuel + 1, text, gap, cursor =>
    let finish : PlainScalar := ⟨text, cursor, gap.any isBreak⟩
    if cursor.isAtDocumentMarker || cursor.rest.head? = some '#' then some finish
    else do
      let word ← plainWord inFlow cursor.rest
      let text := if word.isEmpty then text else text ++ foldGap gap ++ word
      let gap := if word.isEmpty then gap else []
      let behind := cursor.skip word.length
      let run := behind.span isGap
      if run.isEmpty then return ⟨text, behind, gap.any isBreak⟩
      if hasEarlyTab indent (if gap.any isBreak then some behind.column else none) run then none
      let next := behind.skip run.length
      if !inFlow && (next.column : Int) < indent then
        return ⟨text, next, (gap ++ run).any isBreak⟩
      readPlain inFlow indent fuel text (gap ++ run) next

/-! ## Quoted scalars -/

/-- The characters that single letters stand for behind a backslash. -/
def escapedCharacter? : Char → Option Char
  | '0' => some '\x00'
  | 'a' => some '\x07'
  | 'b' => some '\x08'
  | 't' => some '\t'
  | '\t' => some '\t'
  | 'n' => some '\n'
  | 'v' => some '\x0b'
  | 'f' => some '\x0c'
  | 'r' => some '\r'
  | 'e' => some '\x1b'
  | ' ' => some ' '
  | '"' => some '"'
  | '/' => some '/'
  | '\\' => some '\\'
  | 'N' => some '\u0085'
  | '_' => some '\u00a0'
  | 'L' => some '\u2028'
  | 'P' => some '\u2029'
  | _ => none

/-- How many hexadecimal digits follow a letter behind a backslash. -/
def escapeLength? : Char → Option Nat
  | 'x' => some 2
  | 'u' => some 4
  | 'U' => some 8
  | _ => none

/-- The character behind a backslash, with the number of characters that stand for it. -/
def readEscape : List Char → Option (Char × Nat)
  | [] => none
  | letter :: rest =>
    match escapedCharacter? letter, escapeLength? letter with
    | some character, _ => some (character, 1)
    | none, some length => (Text.readHex? length rest).map fun character => (character, length + 1)
    | none, none => none

/-- Read a scalar between quotes from behind the first quote. -/
def readQuoted (quote : Char) : Nat → List Char → Cursor → Option (List Char × Cursor)
  | 0, _, _ => none
  | fuel + 1, text, cursor =>
    if cursor.isAtDocumentMarker then none
    else
      match cursor.rest with
      | [] => none
      | character :: rest =>
        if character = quote then
          if quote = '\'' && rest.head? = some '\'' then
            readQuoted quote fuel (text ++ ['\'']) (cursor.skip 2)
          else some (text, cursor.next)
        else if character = '\\' && quote = '"' then
          if rest.head?.any isBreak then
            let run := (cursor.skip 2).span isGap
            readQuoted quote fuel (text ++ run.filter isBreak) (cursor.skip (2 + run.length))
          else
            match readEscape rest with
            | some (escaped, length) =>
              readQuoted quote fuel (text ++ [escaped]) (cursor.skip (length + 1))
            | none => none
        else if isGap character then
          let run := cursor.span isGap
          readQuoted quote fuel (text ++ foldGap run) (cursor.skip run.length)
        else readQuoted quote fuel (text ++ [character]) cursor.next

/-! ## Block scalars -/

/-- What happens to the line breaks at the end of a block. -/
inductive Chomping where
  | strip
  | clip
  | keep
  deriving DecidableEq, Repr

/-- The chomping that an indicator stands for. -/
def Chomping.ofIndicator? : Char → Option Chomping
  | '+' => some .keep
  | '-' => some .strip
  | _ => none

/-- The indentation that a digit stands for; zero is none. -/
def indentationOf? (character : Char) : Option Nat :=
  if '1' ≤ character ∧ character ≤ '9' then some (character.toNat - '0'.toNat) else none

/-- The indicators behind the begin of a block, in either order. -/
def readBlockHeader (cursor : Cursor) : Chomping × Option Nat × Cursor :=
  match cursor.rest with
  | [] => (.clip, none, cursor)
  | first :: rest =>
    match Chomping.ofIndicator? first, indentationOf? first with
    | some chomping, _ =>
      match rest.head?.bind indentationOf? with
      | some indentation => (chomping, some indentation, cursor.skip 2)
      | none => (chomping, none, cursor.next)
    | none, some indentation =>
      match rest.head?.bind Chomping.ofIndicator? with
      | some chomping => (chomping, some indentation, cursor.skip 2)
      | none => (.clip, some indentation, cursor.next)
    | none, none => (.clip, none, cursor)

/-- Skip the indentation and the empty lines before a line of a block; gives the line breaks, the largest
column met and the place, or nothing when a tab stands in the indentation. -/
def skipBlockIndent (indent : Option Nat) :
    Nat → List Char → Nat → Cursor → Option (List Char × Nat × Cursor)
  | 0, _, _, _ => none
  | fuel + 1, breaks, most, cursor =>
    let spaces := (cursor.span (· = ' ')).length
    let cursor :=
      match indent with
      | none => cursor.skip spaces
      | some indent => cursor.skip (min spaces (indent - cursor.column))
    let most := max most cursor.column
    let isInside := indent.all fun indent => cursor.column < indent
    match cursor.rest with
    | [] => some (breaks, most, cursor)
    | character :: _ =>
      if isInside && character = '\t' then none
      else if isBreak character then
        skipBlockIndent indent fuel (breaks ++ [character]) most cursor.next
      else some (breaks, most, cursor)

/-- The lines of a block: its text so far, the break behind the last line, the breaks of the empty lines
after it and whether the last line began with a space. -/
structure BlockLines where
  text : List Char
  lineBreak : List Char
  emptyLines : List Char
  beganWithSpace : Bool

/-- The text with the breaks in front of the next line; between two lines that begin with no space a
folded block has a space for a single break. -/
def BlockLines.join (lines : BlockLines) (folded beginsWithSpace : Bool) : List Char :=
  if folded && lines.lineBreak = ['\n'] && !lines.beganWithSpace && !beginsWithSpace then
    lines.text ++ (if lines.emptyLines.isEmpty then [' '] else []) ++ lines.emptyLines
  else lines.text ++ lines.lineBreak ++ lines.emptyLines

/-- Read the lines of a block. -/
def readBlockLines (folded : Bool) (indent : Nat) :
    Nat → BlockLines → Cursor → Option (BlockLines × Cursor)
  | 0, _, _ => none
  | fuel + 1, lines, cursor =>
    if cursor.column ≠ indent || cursor.rest.isEmpty then some (lines, cursor)
    else do
      let beginsWithSpace := cursor.rest.head?.any isSpace
      let line := cursor.span fun character => !isBreak character
      let behind := cursor.skip line.length
      let lineBreak := (behind.rest.take 1)
      let (emptyLines, _, next) ←
        skipBlockIndent (some indent) (behind.rest.length + 1) [] 0 behind.next
      readBlockLines folded indent fuel
        ⟨lines.join folded beginsWithSpace ++ line, lineBreak, emptyLines, beginsWithSpace⟩ next

/-- Read a block scalar from behind its first indicator; `parent` is the indentation around it. -/
def readBlock (folded : Bool) (parent : Int) (cursor : Cursor) : Option (List Char × Cursor) := do
  let (chomping, indentation, cursor) := readBlockHeader cursor
  let cursor := (cursor.skipWhile isSpace).skipComment
  if !beginsWithBreak cursor.rest then none
  let cursor := cursor.next
  let fuel := cursor.rest.length + 1
  let given := indentation.map fun indentation => (max parent 0).toNat + indentation
  let (emptyLines, most, cursor) ← skipBlockIndent given fuel [] 0 cursor
  let indent := given.getD (max most (max (parent + 1).toNat 1))
  let (lines, cursor) ← readBlockLines folded indent fuel ⟨[], [], emptyLines, false⟩ cursor
  let text :=
    match chomping with
    | .strip => lines.text
    | .clip => lines.text ++ lines.lineBreak
    | .keep => lines.text ++ lines.lineBreak ++ lines.emptyLines
  return (text, cursor)

end MemoryFabric.Yaml

import MemoryFabric.Text.Escaped
import MemoryFabric.Toml.Date
import MemoryFabric.Toml.Table

/-!
# TOML documents

Reading a document line by line: headers of tables and entries with a key and a value.  A document is
either read as a whole or rejected.  A date or a time stands for a map with its text under a key of its
own.
-/

namespace MemoryFabric.Toml

set_option autoImplicit false

/-- Line breaks as line feeds. -/
def normalizeBreaks : List Char → List Char
  | '\r' :: '\n' :: rest => '\n' :: normalizeBreaks rest
  | character :: rest => character :: normalizeBreaks rest
  | [] => []

/-- Whether a character is a space inside a line. -/
def isSpace (character : Char) : Bool := character = ' ' || character = '\t'

/-- The characters behind spaces. -/
def skipSpaces (characters : List Char) : List Char := characters.dropWhile isSpace

/-- The characters behind a comment; nothing when a character in it is not allowed. -/
def skipComment? (characters : List Char) : Option (List Char) :=
  match characters with
  | '#' :: rest =>
    if (rest.takeWhile (· ≠ '\n')).all Text.isVisible then some (rest.dropWhile (· ≠ '\n')) else none
  | rest => some rest

/-- The characters behind spaces, comments and line breaks. -/
def skipLines? : Nat → List Char → Option (List Char)
  | 0, _ => none
  | fuel + 1, characters => do
    match ← skipComment? (skipSpaces characters) with
    | '\n' :: rest => skipLines? fuel rest
    | rest => some rest

/-- The characters behind the end of a line. -/
def endLine? (characters : List Char) : Option (List Char) := do
  match ← skipComment? (skipSpaces characters) with
  | [] => some []
  | '\n' :: rest => some rest
  | _ => none

/-! ## Texts -/

/-- Read a text of one line with escapes, from behind its first quote. -/
def readBasic? : Nat → List Char → List Char → Option (List Char × List Char)
  | 0, _, _ => none
  | fuel + 1, text, characters =>
    match characters with
    | '"' :: rest => some (text, rest)
    | '\\' :: rest => do
      let (character, length) ← Text.readEscape? rest
      readBasic? fuel (text ++ [character]) (rest.drop length)
    | character :: rest =>
      if Text.isVisible character then readBasic? fuel (text ++ [character]) rest else none
    | [] => none

/-- Read a text of one line without escapes, from behind its first quote. -/
def readLiteral? (characters : List Char) : Option (List Char × List Char) :=
  let text := characters.takeWhile (· ≠ '\'')
  match characters.drop text.length with
  | '\'' :: rest => if text.all Text.isVisible then some (text, rest) else none
  | _ => none

/-- Read a text of several lines, from behind its first three quotes. -/
def readLines? (quote : Char) : Nat → List Char → List Char → Option (List Char × List Char)
  | 0, _, _ => none
  | fuel + 1, text, characters =>
    let quotes := (characters.takeWhile (· = quote)).length
    if 3 ≤ quotes then
      if quotes ≤ 5 then
        some (text ++ List.replicate (quotes - 3) quote, characters.drop quotes)
      else none
    else
      match characters with
      | [] => none
      | '\\' :: rest =>
        if quote = '\'' then readLines? quote fuel (text ++ ['\\']) rest
        else
          match skipSpaces rest with
          | '\n' :: _ =>
            readLines? quote fuel text (rest.dropWhile fun c => isSpace c || c = '\n')
          | _ => do
            let (character, length) ← Text.readEscape? rest
            readLines? quote fuel (text ++ [character]) (rest.drop length)
      | character :: rest =>
        if character = '\n' || Text.isVisible character then
          readLines? quote fuel (text ++ [character]) rest
        else none

/-- The characters behind a line break directly at the begin of a text of several lines. -/
def dropFirstBreak : List Char → List Char
  | '\n' :: rest => rest
  | characters => characters

/-- Read a text in any of its four forms. -/
def readText? (characters : List Char) : Option (List Char × List Char) :=
  match characters with
  | '"' :: '"' :: '"' :: rest => readLines? '"' (rest.length + 1) [] (dropFirstBreak rest)
  | '"' :: rest => readBasic? (rest.length + 1) [] rest
  | '\'' :: '\'' :: '\'' :: rest => readLines? '\'' (rest.length + 1) [] (dropFirstBreak rest)
  | '\'' :: rest => readLiteral? rest
  | _ => none

/-! ## Keys -/

/-- Whether a character may occur in a key without quotes. -/
def isKeyCharacter (character : Char) : Bool :=
  character.isAlphanum || character = '_' || character = '-'

/-- Read one part of a key. -/
def readKeyPart? (characters : List Char) : Option (String × List Char) :=
  match characters with
  | '"' :: rest =>
    (readBasic? (rest.length + 1) [] rest).map fun (text, rest) => (String.ofList text, rest)
  | '\'' :: rest => (readLiteral? rest).map fun (text, rest) => (String.ofList text, rest)
  | _ =>
    let word := characters.takeWhile isKeyCharacter
    if word.isEmpty then none else some (String.ofList word, characters.drop word.length)

/-- Read a key, which may have several parts with points between them, up to a number of parts. -/
def readKeyParts? : Nat → List Char → Option (List String × List Char)
  | 0, _ => none
  | parts + 1, characters => do
    let (part, rest) ← readKeyPart? (skipSpaces characters)
    match skipSpaces rest with
    | '.' :: rest => do
      let (more, rest) ← readKeyParts? parts rest
      return (part :: more, rest)
    | rest => return ([part], rest)

/-- How many parts a key may have, and how many arrays and tables of a line may lie in one another. -/
def deepest : Nat := 79

/-- Read a key. -/
def readKey? (characters : List Char) : Option (List String × List Char) :=
  readKeyParts? deepest characters

/-! ## Numbers -/

/-- Digits without the underscores between them; nothing when an underscore stands elsewhere. -/
def withoutSeparators? (isDigit : Char → Bool) : List Char → Option (List Char)
  | [] => none
  | [digit] => if isDigit digit then some [digit] else none
  | digit :: '_' :: rest =>
    if isDigit digit then (withoutSeparators? isDigit rest).map (digit :: ·) else none
  | digit :: rest =>
    if isDigit digit then (withoutSeparators? isDigit rest).map (digit :: ·) else none

/-- The decimal digits of a whole part, which begins with no zero in front of other digits. -/
def wholePart? (characters : List Char) : Option (List Char) := do
  let digits ← withoutSeparators? Char.isDigit characters
  if 1 < digits.length && digits.head? = some '0' then none else some digits

/-- A number without its sign. -/
def withoutSign : List Char → Bool × List Char
  | '-' :: rest => (true, rest)
  | '+' :: rest => (false, rest)
  | rest => (false, rest)

/-- An integer within 64 bits with a sign. -/
def integerValue? (n : Int) : Option Value :=
  if -0x8000000000000000 ≤ n ∧ n < 0x8000000000000000 then some (.signed (Int64.ofInt n)) else none

/-- The integer that a word stands for. -/
def integer? (word : List Char) : Option Value :=
  let based (base : Nat) (digits : List Char) : Option Value := do
    let digits ← withoutSeparators? (fun c => (Number.digit? base c).isSome) digits
    integerValue? (← Number.digits? base digits)
  match word with
  | '0' :: 'x' :: digits => based 16 digits
  | '0' :: 'o' :: digits => based 8 digits
  | '0' :: 'b' :: digits => based 2 digits
  | _ => do
    let (isNegative, unsigned) := withoutSign word
    let n ← Number.digits? 10 (← wholePart? unsigned)
    integerValue? (if isNegative then -(n : Int) else n)

/-- The number that a word stands for; one that is too large is not allowed, one that is too small is
minus infinity. -/
def number? (word : List Char) : Option Value := do
  let (isNegative, unsigned) := withoutSign word
  match String.ofList unsigned with
  | "inf" => return .number (.infinite isNegative)
  | "nan" => return .number .nan
  | _ =>
    let whole := unsigned.takeWhile fun c => c.isDigit || c = '_'
    let wholeDigits ← wholePart? whole
    let rest := unsigned.drop whole.length
    let (fraction, rest) ←
      match rest with
      | '.' :: rest =>
        let fraction := rest.takeWhile fun c => c.isDigit || c = '_'
        (withoutSeparators? Char.isDigit fraction).map fun digits =>
          (digits, rest.drop fraction.length)
      | rest => some ([], rest)
    let exponent ←
      match rest with
      | [] => if fraction.isEmpty then none else some 0
      | marker :: rest =>
        if marker = 'e' || marker = 'E' then do
          let (isNegative, unsigned) := withoutSign rest
          let n ← Number.digits? 10 (← withoutSeparators? Char.isDigit unsigned)
          some (if isNegative then -(n : Int) else n)
        else none
    let digits ← Number.digits? 10 (wholeDigits ++ fraction)
    let number := Binary64.ofDecimal isNegative digits (exponent - fraction.length)
    if number = .infinite false then none else return .number number

/-- The value that a word stands for. -/
def wordValue? (word : List Char) : Option Value :=
  match String.ofList word with
  | "true" => some (.flag true)
  | "false" => some (.flag false)
  | _ => (integer? word).or (number? word)

/-- The key of the text of a date. -/
def dateKey : String := "$__toml_private_datetime"

/-- Whether a character may occur in a number or a truth value. -/
def isWordCharacter (character : Char) : Bool :=
  character.isAlphanum || character = '_' || character = '-' || character = '+' || character = '.'

/-! ## Values -/

mutual

/-- Read a value; `depth` more arrays and tables may lie in one another. -/
def readValue? : Nat → Nat → List Char → Option (Value × List Char)
  | 0, _, _ => none
  | fuel + 1, depth, characters =>
    match characters, depth with
    | '[' :: rest, depth + 1 =>
      (readItems? fuel depth rest).map fun (items, rest) => (.list items, rest)
    | '{' :: rest, depth + 1 =>
      match skipSpaces rest with
      | '}' :: rest => some (.map [], rest)
      | rest =>
        (readEntries? fuel depth [] rest).map fun (entries, rest) =>
          ((Item.table .header entries).toValue, rest)
    | _, _ =>
      if characters.head? = some '"' || characters.head? = some '\'' then
        (readText? characters).map fun (text, rest) => (.text (String.ofList text), rest)
      else
        match readDate? characters with
        | some (date, rest) => some (.map [(dateKey, .text date)], rest)
        | none =>
          let word := characters.takeWhile isWordCharacter
          (wordValue? word).map fun value => (value, characters.drop word.length)

/-- Read the items of an array, from behind its bracket. -/
def readItems? : Nat → Nat → List Char → Option (List Value × List Char)
  | 0, _, _ => none
  | fuel + 1, depth, characters => do
    match ← skipLines? (characters.length + 1) characters with
    | ']' :: rest => return ([], rest)
    | rest =>
      let (item, rest) ← readValue? fuel depth rest
      match ← skipLines? (rest.length + 1) rest with
      | ',' :: rest => do
        let (items, rest) ← readItems? fuel depth rest
        return (item :: items, rest)
      | ']' :: rest => return ([item], rest)
      | _ => none

/-- Read the entries of a table in a line, from behind its brace. -/
def readEntries? : Nat → Nat → Entries → List Char → Option (Entries × List Char)
  | 0, _, _, _ => none
  | fuel + 1, depth, entries, characters => do
    let (path, rest) ← readKey? characters
    match rest with
    | '=' :: rest => do
      let (value, rest) ← readValue? fuel depth (skipSpaces rest)
      let entries ← Entries.addDotted path value entries
      match skipSpaces rest with
      | ',' :: rest => readEntries? fuel depth entries rest
      | '}' :: rest => return (entries, rest)
      | _ => none
    | _ => none

end

/-! ## Documents -/

/-- Change the table at the path of a header. -/
def editHeader? (edit : String → Entries → Option Entries) (path : List String)
    (root : Entries) : Option Entries :=
  match path.getLast? with
  | some key => Entries.editAt .around (fun _ => edit key) path.dropLast .header root
  | none => none

/-- Read lines; `path` leads to the table that entries belong to. -/
def readStatements? : Nat → List String → Entries → List Char → Option Entries
  | 0, _, _, _ => none
  | fuel + 1, path, root, characters => do
    match ← skipLines? (characters.length + 1) characters with
    | [] => return root
    | '[' :: '[' :: rest => do
      let (header, rest) ← readKey? rest
      match rest with
      | ']' :: ']' :: rest => do
        let root ← editHeader? Entries.addArrayTable header root
        readStatements? fuel header root (← endLine? rest)
      | _ => none
    | '[' :: rest => do
      let (header, rest) ← readKey? rest
      match rest with
      | ']' :: rest => do
        let root ← editHeader? Entries.addTable header root
        readStatements? fuel header root (← endLine? rest)
      | _ => none
    | rest => do
      let (key, rest) ← readKey? rest
      match rest with
      | '=' :: rest => do
        let (value, rest) ← readValue? (rest.length + 1) deepest (skipSpaces rest)
        let add (_ : TableOrigin) (entries : Entries) := Entries.addDotted key value entries
        let root ← Entries.editAt .around add path .header root
        readStatements? fuel path root (← endLine? rest)
      | _ => none

/-- The entries of a document, in the order of their keys; nothing when it is malformed. -/
def read (text : String) : Option (List (String × Value)) :=
  let characters :=
    match text.toList with
    | '\ufeff' :: rest => rest
    | characters => characters
  (readStatements? (characters.length + 2) [] [] (normalizeBreaks characters)).map fun root =>
    (SortedMap.ofList (valuesOf root)).toList

end MemoryFabric.Toml

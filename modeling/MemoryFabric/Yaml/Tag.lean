import MemoryFabric.Text.Hexadecimal
import MemoryFabric.Yaml.Cursor

/-!
# Tags of a YAML document

A tag names the kind of the node behind it.  It is written as an address between angle brackets, or as a
handle with a suffix; a document can say what its handles stand for.  The characters of an address can be
escaped, so an address is a sequence of bytes, and what a tag means is read off its full address: four kinds
of the notation, a kind of the document's own, or a kind of somebody else's.
-/

namespace MemoryFabric.Yaml

set_option autoImplicit false

/-- What a tag says about the node behind it. -/
inductive Tag where
  | flag
  | integer
  | number
  | null
  /-- A kind of the document's own; without a name when the bytes of its name are no text. -/
  | own (name : Option String)
  | other
  deriving DecidableEq, Repr

/-- The bytes of an address. -/
abbrev Address := List UInt8

namespace Tag

/-- The bytes of a text. -/
def bytesOf (text : String) : Address := text.toUTF8.toList

/-- The text of bytes, if they are one. -/
def textOf? (bytes : Address) : Option String := String.fromUTF8? ⟨bytes.toArray⟩

/-- What an address means. -/
def ofAddress (address : Address) : Tag :=
  if address = bytesOf "tag:yaml.org,2002:bool" then .flag
  else if address = bytesOf "tag:yaml.org,2002:int" then .integer
  else if address = bytesOf "tag:yaml.org,2002:float" then .number
  else if address = bytesOf "tag:yaml.org,2002:null" then .null
  else
    match address with
    | [0x21] => .own (some "!")
    | 0x21 :: name => .own (textOf? name)
    | _ => .other

/-! ## Handles -/

/-- The handles of a document, each with the address that it stands for. -/
abbrev Handles := List (String × Address)

/-- The handles that need not be declared. -/
def standardHandles : Handles := [("!", bytesOf "!"), ("!!", bytesOf "tag:yaml.org,2002:")]

/-- The tag of a handle with a suffix; nothing when the handle stands for nothing.  The empty handle stands
for itself. -/
def ofHandle? (handles : Handles) (handle : String) (suffix : Address) : Option Tag :=
  if handle = "" then some (ofAddress suffix)
  else (handles.lookup handle).map fun address => ofAddress (address ++ suffix)

/-! ## Written tags -/

/-- Whether a character may occur in the name of a handle or an anchor. -/
def isNameCharacter (character : Char) : Bool :=
  character.isAlphanum || character = '-' || character = '_'

/-- The characters of an address that are no letters and no digits. -/
def addressMarks : List Char :=
  [';', '/', '?', ':', '@', '&', '=', '+', '$', '.', '!', '~', '*', '\'', '(', ')']

/-- Whether a character stands for itself in an address; some only in a full address. -/
def isAddressCharacter (full : Bool) (character : Char) : Bool :=
  isNameCharacter character || addressMarks.contains character ||
    (full && (character = ',' || character = '[' || character = ']'))

/-- An escaped byte at the front. -/
def readByte? : List Char → Option (UInt8 × List Char)
  | '%' :: high :: low :: rest => do
    let high ← Text.hexDigit? high
    let low ← Text.hexDigit? low
    return (UInt8.ofNat (high * 16 + low), rest)
  | _ => none

/-- How many bytes follow the first byte of a character. -/
def followers? (first : UInt8) : Option Nat :=
  if first < 0x80 then some 0
  else if first &&& 0xe0 = 0xc0 then some 1
  else if first &&& 0xf0 = 0xe0 then some 2
  else if first &&& 0xf8 = 0xf0 then some 3
  else none

/-- A number of escaped bytes inside a character. -/
def readFollowers? : Nat → List Char → Option (Address × List Char)
  | 0, characters => some ([], characters)
  | count + 1, characters => do
    let (byte, rest) ← readByte? characters
    if byte &&& 0xc0 ≠ 0x80 then none
    let (bytes, rest) ← readFollowers? count rest
    return (byte :: bytes, rest)

/-- The escaped bytes of one character. -/
def readEscaped? (characters : List Char) : Option (Address × List Char) := do
  let (first, rest) ← readByte? characters
  let (bytes, rest) ← readFollowers? (← followers? first) rest
  return (first :: bytes, rest)

/-- The address at the front, which may be empty. -/
def readAddress? (full : Bool) : Nat → List Char → Option (Address × List Char)
  | 0, characters => some ([], characters)
  | fuel + 1, characters =>
    match characters with
    | [] => some ([], [])
    | '%' :: _ => do
      let (bytes, rest) ← readEscaped? characters
      let (more, rest) ← readAddress? full fuel rest
      return (bytes ++ more, rest)
    | character :: rest =>
      if isAddressCharacter full character then
        (readAddress? full fuel rest).map fun (more, rest) =>
          (UInt8.ofNat character.toNat :: more, rest)
      else some ([], characters)

/-- The address at the front, which must not be empty; it ends before a zero byte. -/
def readFullAddress? (full : Bool) (characters : List Char) : Option (Address × List Char) := do
  let (bytes, rest) ← readAddress? full characters.length characters
  if bytes.isEmpty then none else return (bytes.takeWhile (· ≠ 0), rest)

/-- A handle and a suffix from behind the exclamation mark that begins them.  A mark alone is a tag by
itself. -/
def readShort? (characters : List Char) : Option (String × Address × List Char) :=
  let name := characters.takeWhile isNameCharacter
  match characters.drop name.length with
  | '!' :: rest => do
    let (suffix, rest) ← readFullAddress? false rest
    return (String.ofList ('!' :: name ++ ['!']), suffix, rest)
  | rest => do
    let (more, rest) ← readAddress? false rest.length rest
    let suffix := (bytesOf (String.ofList name) ++ more).takeWhile (· ≠ 0)
    if suffix.isEmpty then return ("", bytesOf "!", rest) else return ("!", suffix, rest)

/-- A tag at the front, as a handle and a suffix. -/
def read? : List Char → Option (String × Address × List Char)
  | '!' :: '<' :: rest => do
    let (address, rest) ← readFullAddress? true rest
    match rest with
    | '>' :: rest => return ("", address, rest)
    | _ => none
  | '!' :: rest => readShort? rest
  | _ => none

/-- A handle at the front, as a declaration writes it. -/
def readHandle? : List Char → Option (String × List Char)
  | '!' :: characters =>
    let name := characters.takeWhile isNameCharacter
    match characters.drop name.length with
    | '!' :: rest => some (String.ofList ('!' :: name ++ ['!']), rest)
    | rest => if name.isEmpty then some ("!", rest) else none
  | _ => none

end Tag

end MemoryFabric.Yaml

import MemoryFabric.ByteSize.Decimal
import MemoryFabric.ByteSize.Unit
import MemoryFabric.Number.Literal
import MemoryFabric.Text.Blank
import MemoryFabric.Word

/-!
# Reading sizes

A size is written as hexadecimal digits after `0x`, with underscores anywhere, or as a decimal number with
an optional unit, such as `64B`, `1.5KiB` or `4 TiB`.  Fractions of a byte are rounded up.
-/

namespace MemoryFabric.ByteSize

set_option autoImplicit false

/-- Why hexadecimal digits are not a word. -/
inductive HexError where
  | empty
  | invalidDigit
  | tooLarge
  deriving DecidableEq, Repr

/-- Why a number with a unit is not a size. -/
inductive QuantityError where
  | noValue
  | notNumber (character : Char)
  | tooLong
  | outOfRange (value : Decimal)
  | unit (report : Unexpected)
  deriving DecidableEq, Repr

/-- Why a text is not a size. -/
inductive SizeError where
  | hexadecimal (text : String) (cause : HexError)
  | quantity (text : String) (cause : QuantityError)
  deriving DecidableEq, Repr

/-- The text of the error. -/
def HexError.message : HexError → String
  | .empty => "cannot parse integer from empty string"
  | .invalidDigit => "invalid digit found in string"
  | .tooLarge => "number too large to fit in target type"

/-- The text of the error. -/
def QuantityError.message : QuantityError → String
  | .noValue => "no value can be found"
  | .notNumber character => s!"the character {Text.quotedCharacter character} is not a number"
  | .tooLong => "value number is too long"
  | .outOfRange value => s!"the value {value.text} exceeds the valid range"
  | .unit report => report.message

/-- The text of the error. -/
def SizeError.message : SizeError → String
  | .hexadecimal text cause => s!"Unable to parse {text} as hex string: {cause.message}"
  | .quantity text cause => s!"Unable to parse {text} as Byte string: {cause.message}"

/-! ## Hexadecimal sizes -/

/-- The word that hexadecimal digits denote, continuing from `value`. -/
def hexFrom (value : Nat) : List Char → Except HexError UInt64
  | [] => .ok (UInt64.ofNat value)
  | character :: rest =>
    match Number.digit? 16 character with
    | none => .error .invalidDigit
    | some digit =>
      if value * 16 + digit < Word.count then hexFrom (value * 16 + digit) rest
      else .error .tooLarge

/-- Remove every marker `0x` at the front. -/
def dropMarkers : List Char → List Char
  | '0' :: 'x' :: rest => dropMarkers rest
  | characters => characters

/-- The word after the markers; one leading plus is allowed. -/
def hexWord (characters : List Char) : Except HexError UInt64 :=
  match dropMarkers (characters.filter (· ≠ '_')) with
  | [] => .error .empty
  | ['+'] => .error .invalidDigit
  | '+' :: rest => hexFrom 0 rest
  | rest => hexFrom 0 rest

/-! ## Quantities -/

/-- The decimals behind a point, from the given place on, and the characters after them. -/
def readDecimals (value : Decimal) (place : Nat) :
    List Char → Except QuantityError (Decimal × List Char)
  | [] => .ok (value, [])
  | character :: rest =>
    match Number.digit? 10 character with
    | none => .ok (value, character :: rest)
    | some digit =>
      match value.addAt? digit place with
      | none => .error .tooLong
      | some value => readDecimals value (place + 1) rest

/-- The digits in front of a point, the decimals behind it, and the characters after them. -/
def readNumber (value : Decimal) : List Char → Except QuantityError (Decimal × List Char)
  | [] => .ok (value, [])
  | character :: rest =>
    match Number.digit? 10 character with
    | some digit =>
      match value.pushDigit? digit with
      | none => .error .tooLong
      | some value => readNumber value rest
    | none =>
      if character = '.' then
        match rest with
        | [] => .error (.notNumber '.')
        | first :: _ =>
          if (Number.digit? 10 first).isSome then readDecimals value 1 rest
          else .error (.notNumber first)
      else .ok (value, character :: rest)

/-- The number of bytes of a value in a unit, when it is a word. -/
def wholeBytes? (value : Decimal) : SizeUnit → Option UInt64
  | .bit => Word.ofNat? (Number.quotientUp value.roundUp 8)
  | .bytes count => (value.scale? count).bind fun bytes => Word.ofNat? bytes.roundUp

/-- A number with an optional unit. -/
def readQuantity (characters : List Char) : Except QuantityError UInt64 := do
  let characters := Text.trimBlanks characters
  match characters with
  | [] => .error .noValue
  | first :: _ =>
    if (Number.digit? 10 first).isNone then .error (.notNumber first)
    else
      let (value, rest) ← readNumber ⟨0, 0⟩ characters
      match SizeUnit.read (rest.dropWhile (· = ' ')) with
      | .error report => .error (.unit report)
      | .ok unit =>
        match wholeBytes? value unit with
        | some bytes => .ok bytes
        | none => .error (.outOfRange value)

/-- Read a size in either notation. -/
def read (text : String) : Except SizeError UInt64 :=
  match text.toList.map Char.toLower with
  | '0' :: 'x' :: rest =>
    (hexWord ('0' :: 'x' :: rest)).mapError (.hexadecimal text)
  | _ => (readQuantity text.toList).mapError (.quantity text)

end MemoryFabric.ByteSize

import MemoryFabric.ByteSize.Reader
import MemoryFabric.Configuration.Choice
import MemoryFabric.Configuration.Value

/-!
# Codecs of settings

How the value of a setting is read from a configuration value and written as one.  Some settings accept
any scalar as text, because a number or a truth value in the environment may be meant as text; the others
insist on the type of their values.
-/

namespace MemoryFabric

set_option autoImplicit false

/-- Why a value does not suit a setting. -/
inductive ValueError where
  /-- A list or map where a scalar is needed. -/
  | unsupported (value : Value) (wanted : String)
  | size (cause : ByteSize.SizeError)
  | choice (cause : ChoiceError)
  | wrongType (value : Value) (expected : String)
  | outOfRange (value : Value) (expected : String)
  deriving Repr

/-- What went wrong. -/
def ValueError.detail : ValueError → String
  | .unsupported value wanted =>
    s!"'{value.shown}': Unsupported type for Deserialize (should be {wanted})"
  | .size cause => cause.message
  | .choice cause => cause.detail
  | .wrongType value expected => s!"invalid type: found {value.brief}, expected {expected}"
  | .outOfRange value expected => s!"invalid value {value.brief}, expected {expected}"

/-- How the values of a setting are read and written. -/
structure Codec (α : Type) where
  read : Value → Except ValueError α
  write : α → Value

namespace Codec

/-- A scalar as text. -/
def scalarText : Value → Except ValueError String
  | .null => .ok ""
  | .flag value => .ok (if value then "true" else "false")
  | .unsigned value => .ok (toString value.toNat)
  | .signed value => .ok (toString value.toInt)
  | .large value => .error (.unsupported (.large value) "a String")
  | .number value => .ok value.setting
  | .text value => .ok value
  | .list values => .error (.unsupported (.list values) "a String")
  | .map entries => .error (.unsupported (.map entries) "a String")

/-- Any scalar as text. -/
def text : Codec String where
  read := scalarText
  write := .text

/-- Any scalar as text; no text is an absent value. -/
def optionalText : Codec (Option String) where
  read value := (scalarText value).map fun text => if text.isEmpty then none else some text
  write
    | some text => .text text
    | none => .null

/-- An alternative, named by any scalar. -/
def choice {α : Type} (read : String → Except ChoiceError α) (write : α → Value) : Codec α where
  read value := do (read (← scalarText value)).mapError .choice
  write := write

/-- An interleave policy by its name. -/
def policy : Codec InterleavePolicy := choice InterleavePolicy.read fun policy => .text policy.name

/-- A memory model by its name. -/
def model : Codec MemoryModel := choice MemoryModel.read fun model => .text model.name

/-- A memory unit by its code. -/
def unit : Codec MemoryUnit :=
  choice MemoryUnit.read fun unit => .unsigned unit.code.toUInt64

/-- A size, as a number of bytes or as text with a unit. -/
def size : Codec UInt64 where
  read
    | .unsigned value => .ok value
    | .signed value =>
      if 0 ≤ value.toInt then .ok value.toUInt64
      else .error (.unsupported (.signed value) "u64 or String")
    | .text value => (ByteSize.read value).mapError .size
    | value => .error (.unsupported value "u64 or String")
  write := .unsigned

/-- An integer that is not negative and below a bound. -/
def bounded (expected : String) (bound : Nat) (value : Value) : Except ValueError Nat :=
  let within (n : Int) : Except ValueError Nat :=
    if 0 ≤ n ∧ n < bound then .ok n.toNat else .error (.outOfRange value expected)
  match value with
  | .unsigned n => within n.toNat
  | .signed n => within n.toInt
  | _ => .error (.wrongType value expected)

/-- A 64-bit number. -/
def word (expected : String) : Codec UInt64 where
  read value := (bounded expected 0x10000000000000000 value).map UInt64.ofNat
  write := .unsigned

/-- A number of things. -/
def count : Codec UInt64 := word "usize"

/-- A 32-bit number. -/
def halfWord : Codec UInt32 where
  read value := (bounded "u32" 0x100000000 value).map UInt32.ofNat
  write value := .unsigned value.toUInt64

/-- Text and nothing else. -/
def plainText : Codec String where
  read
    | .text value => .ok value
    | value => .error (.wrongType value "a string")
  write := .text

/-- A truth value and nothing else. -/
def flag : Codec Bool where
  read
    | .flag value => .ok value
    | value => .error (.wrongType value "a boolean")
  write := .flag

end Codec

end MemoryFabric

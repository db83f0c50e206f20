import MemoryFabric.Configuration.Value
import MemoryFabric.Number.Literal
import MemoryFabric.Yaml.Tag

/-!
# What the scalars of a YAML document mean

Plain scalars are null, truth values, integers, numbers or text by their form; all other scalars are text.
A tag of the notation asks for one of these kinds, and then the form of the scalar must suit it.
-/

namespace MemoryFabric.Yaml

set_option autoImplicit false

/-! ## Plain scalars -/

/-- Whether digits begin with a zero although they are more than one; such text is no number. -/
def isPaddedNumber (characters : List Char) : Bool :=
  let digits :=
    match characters with
    | '-' :: rest => rest
    | '+' :: rest => rest
    | rest => rest
  1 < digits.length && digits.head? = some '0' && digits.all Char.isDigit

/-- The value of digits behind a mark of their base. -/
def basedNumber? : List Char → Option Nat
  | '0' :: 'x' :: digits => Number.digits? 16 digits
  | '0' :: 'o' :: digits => Number.digits? 8 digits
  | '0' :: 'b' :: digits => Number.digits? 2 digits
  | _ => none

/-- The integer that a plain scalar stands for. -/
def integer? (characters : List Char) : Option Int :=
  let decimal? (digits : List Char) : Option Nat :=
    if isPaddedNumber characters then none else Number.digits? 10 digits
  match characters with
  | '-' :: rest => ((basedNumber? rest).or (decimal? rest)).map fun n => -(n : Int)
  | '+' :: rest => ((basedNumber? rest).or (decimal? rest)).map Int.ofNat
  | rest => ((basedNumber? rest).or (decimal? rest)).map Int.ofNat

/-- The number that a plain scalar stands for. -/
def number? (characters : List Char) : Option Binary64 :=
  let unsigned :=
    match characters with
    | '+' :: rest => rest
    | rest => rest
  let isSignedTwice := unsigned.length < characters.length &&
    (unsigned.head? = some '+' || unsigned.head? = some '-')
  if isSignedTwice then none
  else
    match String.ofList characters, String.ofList unsigned with
    | _, ".inf" | _, ".Inf" | _, ".INF" => some (.infinite false)
    | "-.inf", _ | "-.Inf", _ | "-.INF", _ => some (.infinite true)
    | ".nan", _ | ".NaN", _ | ".NAN", _ => some .nan
    | _, _ => (Number.fraction? unsigned).filter Binary64.isFinite

/-- Whether a text stands for no value. -/
def isNull (text : String) : Bool :=
  text = "" || text = "~" || text = "null" || text = "Null" || text = "NULL"

/-- The truth value that a text stands for. -/
def flag? : String → Option Bool
  | "true" => some true
  | "True" => some true
  | "TRUE" => some true
  | "false" => some false
  | "False" => some false
  | "FALSE" => some false
  | _ => none

/-- An integer as a value; `none` when not even 128 bits hold it. -/
def valueOfInteger? (isNegative : Bool) (n : Int) : Option Value :=
  if isNegative then
    if -0x8000000000000000 ≤ n then some (.signed (Int64.ofInt n))
    else if -0x80000000000000000000000000000000 ≤ n then some (.large n) else none
  else if n < 0x10000000000000000 then some (.unsigned (UInt64.ofNat n.toNat))
  else if n < 0x100000000000000000000000000000000 then some (.large n) else none

/-- The value of a plain scalar. -/
def plainValue (text : String) : Value :=
  let characters := text.toList
  let integer := (integer? characters).bind (valueOfInteger? (characters.head? = some '-'))
  let number := if isPaddedNumber characters then none else (number? characters).map Value.number
  if isNull text then .null
  else ((flag? text).map Value.flag).getD ((integer.or number).getD (.text text))

/-! ## Tags -/

/-- The value of an integer, if a text stands for one. -/
def integerValue? (text : String) : Option Value :=
  (integer? text.toList).bind (valueOfInteger? (text.toList.head? = some '-'))

/-- The value of a scalar, without the kind that a tag of the document's own gives it.  Such a tag leaves
the form of a plain scalar to decide; any tag of somebody else makes text of it. -/
def scalarValue? (tag : Option Tag) (text : String) (isPlain : Bool) : Option Value :=
  match tag with
  | some .flag => (flag? text).map Value.flag
  | some .integer => integerValue? text
  | some .number => (number? text.toList).map Value.number
  | some .null => if isNull text && text ≠ "" then some .null else none
  | some (.own _) | none => some (if isPlain then plainValue text else .text text)
  | some .other => some (.text text)

end MemoryFabric.Yaml

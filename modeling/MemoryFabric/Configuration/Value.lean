import MemoryFabric.Number.Written
import MemoryFabric.SortedMap
import MemoryFabric.Text.Quoted

/-!
# Configuration values

The values that a configuration document, an environment variable or a built-in default can give to a
setting, and the two ways in which messages describe a value.
-/

namespace MemoryFabric

set_option autoImplicit false

/-- A value of a configuration.  The entries of a map are in the order of their keys, each key once. -/
inductive Value where
  | null
  | flag (value : Bool)
  | unsigned (value : UInt64)
  | signed (value : Int64)
  /-- An integer that is no word; no setting takes it. -/
  | large (value : Int)
  | number (value : Binary64)
  | text (value : String)
  | list (values : List Value)
  | map (entries : List (String × Value))
  deriving Repr, Inhabited

namespace Value

/-- The map of a list of entries; of two entries with one key the later one counts. -/
def ofEntries (entries : List (String × Value)) : Value := .map (SortedMap.ofList entries).toList

mutual

/-- The full description of a value, with its type and all its parts. -/
def shown : Value → String
  | .null => "Null"
  | .flag value => s!"Bool({value})"
  | .unsigned value => s!"Number({value.toNat})"
  | .signed value => s!"Number({value.toInt})"
  | .large value => s!"Number({value})"
  | .number value => s!"Number({value.setting})"
  | .text value => s!"String({Text.quoted value})"
  | .list values => "Sequence [" ++ shownItems values ++ "]"
  | .map entries => "Mapping \x7b" ++ shownEntries entries ++ "\x7d"

/-- The descriptions of the items of a list. -/
def shownItems : List Value → String
  | [] => ""
  | [last] => last.shown
  | first :: rest => first.shown ++ ", " ++ shownItems rest

/-- The descriptions of the entries of a map. -/
def shownEntries : List (String × Value) → String
  | [] => ""
  | [(key, value)] => Text.quoted key ++ ": " ++ value.shown
  | (key, value) :: rest => Text.quoted key ++ ": " ++ value.shown ++ ", " ++ shownEntries rest

end

/-- The short description of a value of the wrong type. -/
def brief : Value → String
  | .null => "unit"
  | .flag value => s!"bool {value}"
  | .unsigned value => "unsigned int `" ++ toString value.toNat ++ "`"
  | .signed value => "signed int `" ++ toString value.toInt ++ "`"
  | .large value => "int `" ++ toString value ++ "`"
  | .number value => "float `" ++ value.positional ++ "`"
  | .text value => "string " ++ Text.quoted value
  | .list _ => "sequence"
  | .map _ => "map"

/-- The description of a document that is no map. -/
def whole : Value → String
  | .null => "unit value"
  | .flag value => "boolean `" ++ toString value ++ "`"
  | .unsigned value => "integer `" ++ toString value.toNat ++ "`"
  | .signed value => "integer `" ++ toString value.toInt ++ "`"
  | .large value => "integer `" ++ toString value ++ "`"
  | .number value => "floating point `" ++ value.withPoint ++ "`"
  | .text value => "string " ++ Text.quoted value
  | .list _ => "sequence"
  | .map _ => "map"

end Value

end MemoryFabric

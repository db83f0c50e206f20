import MemoryFabric.Configuration.Codec
import MemoryFabric.Configuration.Mistake

/-!
# Layers of configuration

A configuration is put together from layers: the built-in defaults, a document and the environment.  Maps
merge key by key; anything else is replaced by the later layer.  Each part of the merged tree remembers the
layer that it came from, so that an error can say where to look.
-/

namespace MemoryFabric

set_option autoImplicit false

/-- The notations of configuration files. -/
inductive FileFormat where
  | yaml
  | toml
  deriving DecidableEq, Repr

/-- The name of the notation. -/
def FileFormat.name : FileFormat → String
  | .yaml => "YAML"
  | .toml => "TOML"

/-- Where a value came from. -/
inductive Source where
  | defaults
  | document
  | file (path : String) (format : FileFormat)
  | environment
  deriving DecidableEq, Repr

namespace Source

/-- A path without the parts that mean nothing. -/
def plainPath (path : String) : String :=
  String.intercalate "/" ((path.splitOn "/").filter fun part => part ≠ "" ∧ part ≠ ".")

/-- The source as the end of an error message. -/
def text : Source → String
  | .defaults => ""
  | .document => " in YAML source string"
  | .file path format => s!" in {plainPath path} {format.name} file"
  | .environment => " in environment variable(s)"

/-- The way to a setting, by its keys; the environment has keys in upper case. -/
def keyText (source : Source) (path : List String) : String :=
  match source with
  | .environment => (String.intercalate "." path).map Char.toUpper
  | _ => String.intercalate "." ("default" :: path)

end Source

/-- Why layers do not make up a configuration. -/
inductive SettingError where
  /-- A value does not suit its setting. -/
  | unsuitable (path : List String) (source : Source) (cause : ValueError)
  /-- A document gives no map of settings. -/
  | mistaken (mistake : DocumentMistake) (source : Source)
  deriving Repr

/-- What went wrong. -/
def SettingError.detail : SettingError → String
  | .unsuitable path source cause =>
    s!"{cause.detail} for key \"" ++ source.keyText path ++ "\"" ++ source.text
  | .mistaken mistake source => mistake.detail ++ source.text

/-- A tree of values, each with its source. -/
inductive Layered where
  | leaf (source : Source) (value : Value)
  | group (source : Source) (entries : List (String × Layered))
  deriving Repr

namespace Layered

mutual

/-- A value with one source for all its parts. -/
def ofValue (source : Source) : Value → Layered
  | .map entries => .group source (ofEntries source entries)
  | .null => .leaf source .null
  | .flag value => .leaf source (.flag value)
  | .unsigned value => .leaf source (.unsigned value)
  | .signed value => .leaf source (.signed value)
  | .large value => .leaf source (.large value)
  | .number value => .leaf source (.number value)
  | .text value => .leaf source (.text value)
  | .list values => .leaf source (.list values)

/-- The entries of a map with one source for all their parts. -/
def ofEntries (source : Source) : List (String × Value) → List (String × Layered)
  | [] => []
  | (key, value) :: rest => (key, ofValue source value) :: ofEntries source rest

end

mutual

/-- The value without its sources. -/
def value : Layered → Value
  | .leaf _ value => value
  | .group _ entries => .map (values entries)

/-- The values of entries without their sources. -/
def values : List (String × Layered) → List (String × Value)
  | [] => []
  | (key, entry) :: rest => (key, value entry) :: values rest

end

/-- The source of the latest part. -/
def source : Layered → Source
  | .leaf source _ => source
  | .group source _ => source

mutual

/-- Put a later layer on top. -/
def merge : Layered → Layered → Layered
  | .group _ entries, .group source later => .group source (mergeEntries entries later)
  | .group _ _, .leaf source value => .leaf source value
  | .leaf _ _, later => later

/-- Put the entries of a later layer on top; both lists are in the order of their keys. -/
def mergeEntries : List (String × Layered) → List (String × Layered) → List (String × Layered)
  | [], later => later
  | entries, [] => entries
  | (key, entry) :: rest, (key', entry') :: rest' =>
    match compare key key' with
    | .lt => (key, entry) :: mergeEntries rest ((key', entry') :: rest')
    | .eq => (key, merge entry entry') :: mergeEntries rest rest'
    | .gt => (key', entry') :: mergeEntries ((key, entry) :: rest) rest'

end

end Layered

end MemoryFabric

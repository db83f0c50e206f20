import MemoryFabric.Configuration.Environment
import MemoryFabric.Configuration.Section
import MemoryFabric.Fabric.Error
import MemoryFabric.Text.Blank
import MemoryFabric.Toml.Document
import MemoryFabric.Yaml.Document

/-!
# Loading a configuration

A configuration is loaded from its layers, from the defaults over a document to the environment.  When a
document is not sound, nothing more precise is reported about a failure than that the document is malformed.
-/

namespace MemoryFabric

set_option autoImplicit false

/-- A document in one of the notations that has been read. -/
structure ConfigurationDocument where
  source : Source
  entries : Except DocumentMistake (List (String × Value))
  isSound : Bool

namespace ConfigurationDocument

/-- Read a document in a notation. -/
def read (source : Source) (text : String) : FileFormat → ConfigurationDocument
  | .yaml =>
    let document := Yaml.read text
    ⟨source, document.entries, document.isSound⟩
  | .toml =>
    match Toml.read text with
    | some entries => ⟨source, .ok entries, true⟩
    | none => ⟨source, .error .malformed, true⟩

/-- The layer of a document. -/
def layer (document : ConfigurationDocument) : Except SettingError Layered :=
  match document.entries with
  | .ok entries => .ok (.group document.source (Layered.ofEntries document.source entries))
  | .error mistake => .error (.mistaken mistake document.source)

/-- A failure to load a document, made less precise when the document is not sound. -/
def judge {α : Type} (document : ConfigurationDocument) :
    Except SettingError α → Except SettingError α
  | .ok value => .ok value
  | .error cause =>
    .error (if document.isSound then cause else .mistaken .malformed document.source)

end ConfigurationDocument

namespace Settings

/-- The layer of the built-in defaults. -/
def defaultLayer : Layered := Layered.ofValue .defaults (write {})

/-- Settings from a document between the defaults and the given later layers. -/
def ofDocument (document : ConfigurationDocument) (later : List Layered) :
    Except SettingError Settings :=
  document.judge do
    let layer ← document.layer
    read (later.foldl Layered.merge (defaultLayer.merge layer))

/-- A settings error as an error of a build. -/
def refuse {α : Type} : Except SettingError α → Except BuildError α :=
  Except.mapError fun cause => .configuration (.setting cause)

/-- Settings from a YAML document over the defaults, without the environment. -/
def ofYaml (text : String) : Except BuildError Settings :=
  refuse <|
    if text.toList.all Text.isBlank then read defaultLayer
    else ofDocument (ConfigurationDocument.read .document text .yaml) []

/-! ## Files -/

/-- The last part of a path. -/
def fileName (path : String) : List Char :=
  (path.toList.reverse.takeWhile (· ≠ '/')).reverse

/-- The notation of a file: YAML by its ending, otherwise TOML. -/
def formatOf (path : String) : FileFormat :=
  let name := (fileName path).reverse
  let ending := name.takeWhile (· ≠ '.')
  let hasStem := ending.length + 1 < name.length
  match String.ofList ending.reverse with
  | "yaml" => if hasStem then .yaml else .toml
  | "yml" => if hasStem then .yaml else .toml
  | _ => .toml

/-- Load settings: the defaults, then the file if one is given, then the environment.  `text?` is the
content of a regular file. -/
def load (path? : Option String) (text? : String → Option String)
    (environment : List (String × String)) : Except BuildError Settings :=
  let later := Environment.layer environment
  match path? with
  | none => refuse (read (defaultLayer.merge later))
  | some path =>
    match text? path with
    | none => .error (.configuration (.unreadable path))
    | some text =>
      let format := formatOf path
      refuse (ofDocument (ConfigurationDocument.read (.file path format) text format) [later])

end Settings

end MemoryFabric

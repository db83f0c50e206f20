import MemoryFabric.Configuration.Layer
import MemoryFabric.Configuration.Settings

/-!
# Sections

A section of the configuration is a list of fields, each with its key, its place in a structure of
settings and its codec.  From the list follow both directions: reading a section from a tree of values, on
top of its defaults, and writing it as a value.  A section can also be given as a sequence of values for
its fields in their order.  Unknown keys are ignored.
-/

namespace MemoryFabric

set_option autoImplicit false

/-- A member of a structure, under a key. -/
structure Member (σ : Type) where
  key : String
  Kind : Type
  get : σ → Kind
  set : σ → Kind → σ

/-- A setting in a structure of settings. -/
structure SettingField (σ : Type) extends Member σ where
  codec : Codec Kind

namespace SettingField

variable {σ : Type}

/-- The settings with the value for the field. -/
def read (field : SettingField σ) (settings : σ) (value : Value) : Except ValueError σ :=
  (field.codec.read value).map (field.set settings)

/-- The value of the field in settings. -/
def write (field : SettingField σ) (settings : σ) : Value := field.codec.write (field.get settings)

end SettingField

/-- The setting at `key` that `get` and `set` give access to. -/
def Codec.field {σ α : Type} (codec : Codec α) (key : String) (get : σ → α) (set : σ → α → σ) :
    SettingField σ where
  key := key
  Kind := α
  get := get
  set := set
  codec := codec

/-- A structure of settings as a list of fields. -/
structure Section (σ : Type) where
  /-- What messages call a value of the section. -/
  title : String
  fields : List (SettingField σ)

namespace Section

variable {σ : Type}

/-- An error at a setting below the given path. -/
def locate (path : List String) (source : Source) {α : Type} :
    Except ValueError α → Except SettingError α :=
  Except.mapError (.unsuitable path source)

/-- Read one entry of a map. -/
def readEntry (kind : Section σ) (path : List String) (settings : σ) (key : String)
    (entry : Layered) : Except SettingError σ :=
  match kind.fields.find? fun field => field.key = key with
  | some field => locate (path ++ [key]) entry.source (field.read settings entry.value)
  | none => .ok settings

/-- Read the entries of a map in their order. -/
def readEntries (kind : Section σ) (path : List String) (settings : σ) :
    List (String × Layered) → Except SettingError σ
  | [] => .ok settings
  | (key, entry) :: rest => do
    readEntries kind path (← kind.readEntry path settings key entry) rest

/-- Read values for fields in their order; values without a field are ignored. -/
def readItems (path : List String) (source : Source) (settings : σ) (position : Nat) :
    List (SettingField σ) → List Value → Except SettingError σ
  | field :: fields, value :: values => do
    let settings ← locate (path ++ [toString position]) source (field.read settings value)
    readItems path source settings (position + 1) fields values
  | _, _ => .ok settings

/-- Read a section on top of its defaults. -/
def read (kind : Section σ) (path : List String) (defaults : σ) :
    Layered → Except SettingError σ
  | .group _ entries => kind.readEntries path defaults entries
  | .leaf source (.list values) => readItems path source defaults 0 kind.fields values
  | .leaf source value =>
    .error (.unsuitable path source (.wrongType value ("struct " ++ kind.title)))

/-- Write a section. -/
def write (kind : Section σ) (settings : σ) : Value :=
  Value.ofEntries (kind.fields.map fun field => (field.key, field.write settings))

end Section

/-! ## The sections of a fabric -/

/-- The fields of the memory section. -/
def MemorySettings.layout : Section MemorySettings where
  title := "MemorySection"
  fields := [
    Codec.size.field "total_bytes" totalBytes fun s v => { s with totalBytes := v },
    Codec.count.field "nodes" nodes fun s v => { s with nodes := v },
    Codec.policy.field "interleave" interleave fun s v => { s with interleave := v },
    Codec.model.field "model" model fun s v => { s with model := v },
    Codec.unit.field "pim_type" unit fun s v => { s with unit := v },
    Codec.halfWord.field "max_requests_per_cycle" maxRequestsPerCycle
      fun s v => { s with maxRequestsPerCycle := v },
    Codec.plainText.field "request_delay" requestDelay fun s v => { s with requestDelay := v },
    Codec.plainText.field "access_time" accessTime fun s v => { s with accessTime := v },
    Codec.plainText.field "dramsim3_config_ini" timingModelFile
      fun s v => { s with timingModelFile := v }]

/-- The fields of the compute section. -/
def ComputeSettings.layout : Section ComputeSettings where
  title := "ComputeSection"
  fields := [
    Codec.count.field "num_cpus" processingNodes fun s v => { s with processingNodes := v },
    Codec.count.field "num_cores" cores fun s v => { s with cores := v },
    Codec.text.field "arch" architecture fun s v => { s with architecture := v },
    Codec.optionalText.field "app" workload fun s v => { s with workload := v },
    Codec.text.field "args" arguments fun s v => { s with arguments := v },
    Codec.text.field "program" program fun s v => { s with program := v },
    Codec.halfWord.field "force_noncacheable_reqs" forceNoncacheable
      fun s v => { s with forceNoncacheable := v }]

/-- The fields of the timing section. -/
def TimingSettings.layout : Section TimingSettings where
  title := "TimingSection"
  fields := [
    Codec.plainText.field "clock" clock fun s v => { s with clock := v },
    (Codec.word "u64").field "link_latency_ns" linkLatency fun s v => { s with linkLatency := v },
    Codec.halfWord.field "max_transactions" maxTransactions
      fun s v => { s with maxTransactions := v },
    Codec.halfWord.field "l1_access_latency_cycles" firstCacheLatency
      fun s v => { s with firstCacheLatency := v },
    Codec.halfWord.field "l2_access_latency_cycles" secondCacheLatency
      fun s v => { s with secondCacheLatency := v },
    Codec.plainText.field "memnic_network_bw" interfaceBandwidth
      fun s v => { s with interfaceBandwidth := v }]

/-- The fields of the cache section. -/
def CacheSettings.layout : Section CacheSettings where
  title := "CacheSection"
  fields := [
    Codec.plainText.field "l1_size" firstSize fun s v => { s with firstSize := v },
    Codec.halfWord.field "l1_associativity" firstAssociativity
      fun s v => { s with firstAssociativity := v },
    Codec.plainText.field "l2_size" secondSize fun s v => { s with secondSize := v },
    Codec.halfWord.field "l2_associativity" secondAssociativity
      fun s v => { s with secondAssociativity := v },
    Codec.halfWord.field "line_size" lineSize fun s v => { s with lineSize := v },
    Codec.plainText.field "coherence_protocol" coherence fun s v => { s with coherence := v },
    Codec.halfWord.field "mshr_num_entries" missEntries fun s v => { s with missEntries := v },
    Codec.halfWord.field "mshr_latency_cycles" missLatency
      fun s v => { s with missLatency := v }]

/-- The fields of the router section. -/
def RouterSettings.layout : Section RouterSettings where
  title := "RouterSection"
  fields := [
    Codec.plainText.field "link_bw" linkBandwidth fun s v => { s with linkBandwidth := v },
    Codec.plainText.field "xbar_bw" crossbarBandwidth fun s v => { s with crossbarBandwidth := v },
    Codec.plainText.field "flit_size" flitSize fun s v => { s with flitSize := v },
    Codec.plainText.field "input_latency" inputLatency fun s v => { s with inputLatency := v },
    Codec.plainText.field "output_latency" outputLatency fun s v => { s with outputLatency := v },
    Codec.plainText.field "input_buf_size" inputBuffer fun s v => { s with inputBuffer := v },
    Codec.plainText.field "output_buf_size" outputBuffer fun s v => { s with outputBuffer := v }]

/-- The fields of the statistics section. -/
def StatisticsSettings.layout : Section StatisticsSettings where
  title := "StatisticsSection"
  fields := [
    Codec.halfWord.field "load_level" loadLevel fun s v => { s with loadLevel := v },
    Codec.plainText.field "output" output fun s v => { s with output := v },
    Codec.plainText.field "file_name" fileName fun s v => { s with fileName := v },
    Codec.plainText.field "separator" separator fun s v => { s with separator := v },
    Codec.flag.field "enable_all" enableAll fun s v => { s with enableAll := v }]

/-! ## The whole configuration -/

namespace Settings

/-- Read one entry at the top of the tree. -/
def readEntry (settings : Settings) (key : String) (entry : Layered) :
    Except SettingError Settings :=
  match key with
  | "memory" => do
    return { settings with memory := ← MemorySettings.layout.read [key] {} entry }
  | "compute" => do
    return { settings with compute := ← ComputeSettings.layout.read [key] {} entry }
  | "timing" => do
    return { settings with timing := ← TimingSettings.layout.read [key] {} entry }
  | "cache" => do
    return { settings with cache := ← CacheSettings.layout.read [key] {} entry }
  | "router" => do
    return { settings with router := ← RouterSettings.layout.read [key] {} entry }
  | "statistics" => do
    return { settings with statistics := ← StatisticsSettings.layout.read [key] {} entry }
  | "output_directory" => do
    let text ← Section.locate [key] entry.source (Codec.text.read entry.value)
    return { settings with outputDirectory := text }
  | _ => .ok settings

/-- Read a configuration from a merged tree. -/
def read : Layered → Except SettingError Settings
  | .group _ entries => entries.foldlM (fun settings (key, entry) => settings.readEntry key entry) {}
  | .leaf source value => .error (.mistaken (.notMap value ⟨0, 0⟩) source)

/-- Write a configuration. -/
def write (settings : Settings) : Value :=
  Value.ofEntries [
    ("memory", MemorySettings.layout.write settings.memory),
    ("compute", ComputeSettings.layout.write settings.compute),
    ("timing", TimingSettings.layout.write settings.timing),
    ("cache", CacheSettings.layout.write settings.cache),
    ("router", RouterSettings.layout.write settings.router),
    ("statistics", StatisticsSettings.layout.write settings.statistics),
    ("output_directory", .text settings.outputDirectory)]

end Settings

end MemoryFabric

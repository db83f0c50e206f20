import MemoryFabric.Proofs.Configuration.EnvironmentLayer
import MemoryFabric.Proofs.Configuration.Sections

/-!
# The settings of a configuration

All settings with the ways to them, their codecs and their places in a configuration (`Setting.all`).
-/

namespace MemoryFabric

set_option autoImplicit false

/-! ## Sections -/

/-- A section of a configuration. -/
structure SettingSection extends Member Settings where
  layout : Section Kind
  initial : Kind

namespace Settings

/-- The sections of a configuration. -/
def sections : List SettingSection := [
  ⟨⟨"memory", MemorySettings, memory, fun s v => { s with memory := v }⟩, MemorySettings.layout, {}⟩,
  ⟨⟨"compute", ComputeSettings, compute, fun s v => { s with compute := v }⟩,
    ComputeSettings.layout, {}⟩,
  ⟨⟨"timing", TimingSettings, timing, fun s v => { s with timing := v }⟩, TimingSettings.layout, {}⟩,
  ⟨⟨"cache", CacheSettings, cache, fun s v => { s with cache := v }⟩, CacheSettings.layout, {}⟩,
  ⟨⟨"router", RouterSettings, router, fun s v => { s with router := v }⟩, RouterSettings.layout, {}⟩,
  ⟨⟨"statistics", StatisticsSettings, statistics, fun s v => { s with statistics := v }⟩,
    StatisticsSettings.layout, {}⟩]

/-- The fields of every section can be set independently, and they are all of the section. -/
theorem sections_makeUp : ∀ part ∈ sections, part.layout.MakesUp := by
  simp only [sections, List.forall_mem_cons]
  refine ⟨?_, ?_, ?_, ?_, ?_, ?_, nofun⟩
  all_goals
    refine ⟨by decide, ?_, ?_, ?_⟩
    · simp [MemorySettings.layout, ComputeSettings.layout, TimingSettings.layout, CacheSettings.layout,
        RouterSettings.layout, StatisticsSettings.layout, Codec.field]
    · simp [MemorySettings.layout, ComputeSettings.layout, TimingSettings.layout, CacheSettings.layout,
        RouterSettings.layout, StatisticsSettings.layout, Codec.field]
    · rintro ⟨⟩ ⟨⟩
      simp [MemorySettings.layout, ComputeSettings.layout, TimingSettings.layout, CacheSettings.layout,
        RouterSettings.layout, StatisticsSettings.layout, Codec.field]

end Settings

/-! ## Codecs -/

namespace Settings

/-- No setting takes a map. -/
theorem fields_rejectMaps : ∀ part ∈ sections, ∀ field ∈ part.layout.fields, field.codec.RejectsMaps := by
  simp only [sections, List.forall_mem_cons, MemorySettings.layout, ComputeSettings.layout,
    TimingSettings.layout, CacheSettings.layout, RouterSettings.layout, StatisticsSettings.layout]
  repeat' apply And.intro
  all_goals nofun

/-- Every setting takes its default as it is written. -/
theorem fields_read_initial : ∀ part ∈ sections, ∀ field ∈ part.layout.fields,
    field.codec.read (field.write part.initial) = .ok (field.get part.initial) := by
  simp only [sections, List.forall_mem_cons, MemorySettings.layout, ComputeSettings.layout,
    TimingSettings.layout, CacheSettings.layout, RouterSettings.layout, StatisticsSettings.layout]
  repeat' apply And.intro
  all_goals first
    | rfl
    | nofun

theorem sections_initial : ∀ part ∈ sections, part.get {} = part.initial := by
  simp [sections]

theorem sections_keys : ∀ part ∈ sections, part.key ≠ plainKey := by
  simp [sections, plainKey]

/-! ## Reading a whole configuration -/

/-- The directory for output, the one setting that is in no section. -/
def outputMember : Member Settings :=
  ⟨plainKey, String, outputDirectory, fun s v => { s with outputDirectory := v }⟩

/-- The sections and the setting besides them, with how they are read. -/
def readers : List (Reader Settings) :=
  sections.map (fun part => ⟨part.toMember, part.layout.read [part.key] part.initial⟩) ++
    [⟨outputMember, fun entry => Section.locate [plainKey] entry.source (Codec.text.read entry.value)⟩]

theorem readers_makesUp : Reader.MakesUp readers := by
  refine ⟨by decide, ?_, ?_, ?_⟩
  · simp [readers, sections, outputMember]
  · simp [readers, sections, outputMember, plainKey]
  · rintro ⟨⟩ ⟨⟩
    simp [readers, sections, outputMember]

/-- An entry at the top is read by the reader of its key; other entries have no effect. -/
theorem readEntry_eq {settings : Settings} {key : String} {entry : Layered} :
    settings.readEntry key entry =
      match readers.find? fun reader => reader.key = key with
      | some reader => (reader.read entry).map (reader.set settings)
      | none => .ok settings := by
  unfold readEntry
  split
  · cases read : MemorySettings.layout.read ["memory"] {} entry <;>
      simp [readers, sections, read, Except.map]
  · cases read : ComputeSettings.layout.read ["compute"] {} entry <;>
      simp [readers, sections, read, Except.map]
  · cases read : TimingSettings.layout.read ["timing"] {} entry <;>
      simp [readers, sections, read, Except.map]
  · cases read : CacheSettings.layout.read ["cache"] {} entry <;>
      simp [readers, sections, read, Except.map]
  · cases read : RouterSettings.layout.read ["router"] {} entry <;>
      simp [readers, sections, read, Except.map]
  · cases read : StatisticsSettings.layout.read ["statistics"] {} entry <;>
      simp [readers, sections, read, Except.map]
  · cases read : Section.locate ["output_directory"] entry.source (Codec.text.read entry.value) <;>
      simp [readers, sections, outputMember, plainKey, read, Except.map]
  · next memory compute timing cache router statistics output =>
      have unknown : (readers.find? fun reader => reader.key = key) = none := by
        refine List.find?_eq_none.2 fun reader member same => ?_
        have same : reader.key = key := of_decide_eq_true same
        have keys : readers.map (fun reader => reader.key) =
            ["memory", "compute", "timing", "cache", "router", "statistics", "output_directory"] := rfl
        have known := List.mem_map_of_mem (f := fun reader : Reader Settings => reader.key) member
        rw [keys, same] at known
        simp only [List.mem_cons, List.not_mem_nil, or_false] at known
        rcases known with known | known | known | known | known | known | known
        exacts [memory known, compute known, timing known, cache known, router known, statistics known,
          output known]
      rw [unknown]

/-- The entries at the top are assignments to the members of their keys. -/
theorem read_group_eq {source : Source} {entries : List (String × Layered)} :
    read (.group source entries) = Assignment.applyAll {} (Reader.assignments readers entries) := by
  rw [read]
  generalize ({} : Settings) = settings
  induction entries generalizing settings with
  | nil => rfl
  | cons head rest ih =>
      obtain ⟨key, entry⟩ := head
      simp only [List.foldlM_cons]
      rw [readEntry_eq]
      cases found : readers.find? fun reader => reader.key = key with
      | none =>
          rw [Reader.assignments_cons_of_none found]
          exact ih settings
      | some reader =>
          rw [Reader.assignments_cons_of_some found, Assignment.applyAll]
          dsimp only
          cases reader.read entry with
          | error cause => rfl
          | ok value => exact ih _

section Tree

variable {source : Source} {entries : List (String × Layered)} (ordered : InKeyOrder entries)

include ordered

theorem read_eq_ok_iff_members {settings : Settings} :
    read (.group source entries) = .ok settings ↔
      ∀ reader ∈ readers, Gives ((SortedEntries.get? reader.key entries).map reader.read)
        (reader.get {}) (reader.get settings) := by
  rw [read_group_eq, Reader.readAll_eq_ok_iff readers_makesUp ordered]

theorem exists_read_iff_members :
    (∃ settings, read (.group source entries) = .ok settings) ↔
      ∀ reader ∈ readers, ∀ entry, SortedEntries.get? reader.key entries = some entry →
        ∃ value, reader.read entry = .ok value := by
  rw [read_group_eq, Reader.exists_readAll_iff readers_makesUp ordered]

end Tree

end Settings

/-! ## Settings -/

/-- A setting of a configuration: the way to it, its place in its section, how its value is read and written,
and where it is. -/
structure Setting where
  path : List String
  place : Nat
  Kind : Type
  codec : Codec Kind
  get : Settings → Kind

namespace Setting

/-- The setting of a field in a section. -/
def inSection (part : SettingSection) (place : Nat) (field : SettingField part.Kind) : Setting :=
  ⟨[part.key, field.key], place, field.Kind, field.codec, fun settings => field.get (part.get settings)⟩

/-- The directory for output. -/
def outputDirectory : Setting := ⟨[plainKey], 0, String, .text, Settings.outputDirectory⟩

/-- All settings of a configuration. -/
def all : List Setting :=
  Settings.sections.flatMap (fun part => part.layout.fields.mapIdx (inSection part)) ++ [outputDirectory]

/-- The size of the address space. -/
def totalBytes : Setting :=
  ⟨["memory", "total_bytes"], 0, UInt64, .size, fun settings => settings.memory.totalBytes⟩

/-- The number of memory nodes. -/
def memoryNodes : Setting :=
  ⟨["memory", "nodes"], 1, UInt64, .count, fun settings => settings.memory.nodes⟩

/-- The name of the workload generator. -/
def workload : Setting :=
  ⟨["compute", "app"], 3, Option String, .optionalText, fun settings => settings.compute.workload⟩

/-- The arguments for all processing nodes. -/
def arguments : Setting :=
  ⟨["compute", "args"], 4, String, .text, fun settings => settings.compute.arguments⟩

theorem totalBytes_mem : totalBytes ∈ all :=
  List.mem_of_getElem? (show all[0]? = some totalBytes from rfl)

theorem memoryNodes_mem : memoryNodes ∈ all :=
  List.mem_of_getElem? (show all[1]? = some memoryNodes from rfl)

theorem workload_mem : workload ∈ all :=
  List.mem_of_getElem? (show all[12]? = some workload from rfl)

theorem arguments_mem : arguments ∈ all :=
  List.mem_of_getElem? (show all[13]? = some arguments from rfl)

/-- What holds of the fields of all sections and of the directory holds of all settings. -/
theorem forall_mem_all_iff {holds : Setting → Prop} :
    (∀ setting ∈ all, holds setting) ↔
      (∀ part ∈ Settings.sections, ∀ (place : Nat) (field : SettingField part.Kind),
        part.layout.fields[place]? = some field → holds (inSection part place field)) ∧
          holds outputDirectory := by
  rw [all, List.forall_mem_append, List.forall_mem_singleton]
  refine and_congr_left fun _ => ?_
  constructor
  · intro each part member place field found
    refine each _ (List.mem_flatMap.2 ⟨part, member, ?_⟩)
    obtain ⟨inside, rfl⟩ := List.getElem?_eq_some_iff.1 found
    exact List.mem_mapIdx.2 ⟨place, inside, rfl⟩
  · intro each setting member
    obtain ⟨part, part_mem, member⟩ := List.mem_flatMap.1 member
    obtain ⟨place, inside, rfl⟩ := List.mem_mapIdx.1 member
    exact each part part_mem place _ (List.getElem?_eq_getElem inside)

/-- No setting takes a map. -/
theorem rejectsMaps : ∀ setting ∈ all, setting.codec.RejectsMaps :=
  forall_mem_all_iff.2 ⟨fun part member _ field found =>
    Settings.fields_rejectMaps part member field (List.mem_of_getElem? found), nofun⟩

end Setting

end MemoryFabric

import MemoryFabric.Proofs.Configuration.LoadedSettings

/-!
# Written settings

A configuration that has been written as a value is read back as it was, setting by setting: each codec takes
what it writes.  The one value that is lost is an empty name of a workload, which stands for none.

Main statement: **`read_write_eq_ok_iff`**.
-/

namespace MemoryFabric

set_option autoImplicit false

/-! ## Codecs -/

namespace Codec

/-- The codec reads a value as which it has written it. -/
def Restores {α : Type} (codec : Codec α) (value : α) : Prop := codec.read (codec.write value) = .ok value

@[simp]
theorem size_restores (value : UInt64) : size.Restores value := rfl

@[simp]
theorem word_restores (expected : String) (value : UInt64) : (word expected).Restores value :=
  word_read_unsigned

@[simp]
theorem count_restores (value : UInt64) : count.Restores value := word_read_unsigned

@[simp]
theorem halfWord_restores (value : UInt32) : halfWord.Restores value := by
  have same : value.toUInt64.toNat = value.toNat := UInt32.toNat_toUInt64 value
  rw [Restores, halfWord]
  dsimp only
  rw [bounded_unsigned (by have := value.toNat_lt; omega), same]
  exact congrArg Except.ok UInt32.ofNat_toNat

@[simp]
theorem plainText_restores (value : String) : plainText.Restores value := rfl

@[simp]
theorem text_restores (value : String) : text.Restores value := rfl

@[simp]
theorem flag_restores (value : Bool) : flag.Restores value := rfl

@[simp]
theorem policy_restores (value : InterleavePolicy) : policy.Restores value := by
  cases value <;> rfl

@[simp]
theorem model_restores (value : MemoryModel) : model.Restores value := by
  cases value <;> rfl

@[simp]
theorem unit_restores (value : MemoryUnit) : unit.Restores value := by
  cases value <;> rfl

/-- Every text is its own; no text at all is an empty one. -/
@[simp]
theorem optionalText_restores_iff {value : Option String} :
    optionalText.Restores value ↔ value ≠ some "" := by
  cases value with
  | none => exact ⟨fun _ => nofun, fun _ => rfl⟩
  | some text =>
      have read : optionalText.read (optionalText.write (some text)) =
          .ok (if text.isEmpty then none else some text) := rfl
      rw [Restores, read]
      by_cases empty : text = ""
      · simp [empty]
      · simp [empty]

end Codec

/-! ## Sections -/

section Sections

variable {σ : Type} {kind : Section σ} (makesUp : kind.MakesUp) {path : List String} {source : Source}

include makesUp

/-- **A written section is read back when its fields are.** -/
theorem Section.read_written_eq_ok_iff {defaults settings : σ} :
    kind.read path defaults (Layered.ofValue source (kind.write settings)) = .ok settings ↔
      ∀ field ∈ kind.fields, field.codec.Restores (field.get settings) := by
  obtain ⟨entries, written, ordered, found⟩ := exists_ofValue_write makesUp source settings
  rw [written, read_group_eq_ok_iff makesUp ordered]
  refine forall₂_congr fun field member => ?_
  rw [found field member, Option.map_some, Option.map_some, Layered.value_ofValue]
  exact Iff.rfl

end Sections

namespace Settings

/-- The entries of a written configuration. -/
def writtenEntries (settings : Settings) : List (String × Value) :=
  sections.map (fun part => (part.key, part.layout.write (part.get settings))) ++
    [(plainKey, .text settings.outputDirectory)]

/-- What is at a key in a written configuration. -/
theorem get?_writtenEntries {settings : Settings} {key : String} {value : Value}
    (member : (key, value) ∈ settings.writtenEntries) :
    SortedEntries.get? key (SortedMap.ofList settings.writtenEntries).toList = some value := by
  have keys : settings.writtenEntries.map Prod.fst =
      ["memory", "compute", "timing", "cache", "router", "statistics", "output_directory"] := rfl
  exact SortedMap.get?_insertAll_of_mem (by rw [keys]; decide) member

/-- A written configuration is read back when its settings are. -/
theorem read_write_eq_ok_iff_restores {source : Source} {settings : Settings} :
    read (Layered.ofValue source settings.write) = .ok settings ↔
      ∀ setting ∈ Setting.all, setting.codec.Restores (setting.get settings) := by
  have written : settings.write = Value.ofEntries settings.writtenEntries := rfl
  have ordered : InKeyOrder (Layered.ofEntries source (SortedMap.ofList settings.writtenEntries).toList) :=
    Layered.inKeyOrder_ofEntries (SortedMap.ofList _).ordered
  rw [written, Value.ofEntries, Layered.ofValue, read_eq_ok_iff_members ordered, readers,
    List.forall_mem_append, List.forall_mem_map, List.forall_mem_singleton, Setting.forall_mem_all_iff]
  refine and_congr ?_ ?_
  · refine forall₂_congr fun part member => ?_
    rw [Layered.get?_ofEntries, get?_writtenEntries
      (List.mem_append_left _ (List.mem_map.2 ⟨part, member, rfl⟩)), Option.map_some, Option.map_some]
    refine (Section.read_written_eq_ok_iff (sections_makeUp part member)).trans ?_
    constructor
    · exact fun restores place field found => restores field (List.mem_of_getElem? found)
    · intro restores field field_mem
      obtain ⟨place, found⟩ := List.mem_iff_getElem?.1 field_mem
      exact restores place field found
  · have plain : Gives ((SortedEntries.get? plainKey (Layered.ofEntries source
          (SortedMap.ofList settings.writtenEntries).toList)).map fun entry =>
        Section.locate [plainKey] entry.source (Codec.text.read entry.value)) "./"
          settings.outputDirectory := by
      rw [Layered.get?_ofEntries, get?_writtenEntries (List.mem_append_right _ List.mem_cons_self),
        Option.map_some, Option.map_some, Layered.ofValue]
      rfl
    exact iff_of_true plain rfl

/-- Every setting takes back what it has written, the workload unless its name is empty. -/
theorem fields_restore {settings : Settings} (named : settings.compute.workload ≠ some "") :
    ∀ part ∈ sections, ∀ field ∈ part.layout.fields,
      field.codec.Restores (field.get (part.get settings)) := by
  simp [sections, MemorySettings.layout, ComputeSettings.layout, TimingSettings.layout,
    CacheSettings.layout, RouterSettings.layout, StatisticsSettings.layout, Codec.field, named]

/-- **A configuration that has been written is read back as it was**, whatever its settings are, unless it has
an empty name of a workload. -/
theorem read_write_eq_ok_iff {source : Source} {settings : Settings} :
    read (Layered.ofValue source settings.write) = .ok settings ↔ settings.compute.workload ≠ some "" := by
  rw [read_write_eq_ok_iff_restores]
  constructor
  · intro restores
    exact Codec.optionalText_restores_iff.1 (restores .workload Setting.workload_mem)
  · intro named
    refine Setting.forall_mem_all_iff.2 ⟨fun part member place field found => ?_, rfl⟩
    exact fields_restore named part member field (List.mem_of_getElem? found)

end Settings

end MemoryFabric

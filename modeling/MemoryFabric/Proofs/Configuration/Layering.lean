import MemoryFabric.Proofs.Configuration.Documents
import MemoryFabric.Proofs.Configuration.Fields

/-!
# The layers of a configuration

A setting has what its variable in the environment gives it, else what the file gives it, else its default.
A section that the file gives as a map is merged key by key.  A section that the file gives as a sequence has
values for its settings by their places, but it is replaced as a whole when the environment has a variable for
any of its settings (`Settings.fileValue?`).  Main statement: **`Settings.load_eq_ok_iff`**.
-/

namespace MemoryFabric

set_option autoImplicit false

/-! ## What is given to a setting -/

/-- What a tree shows for a setting: the value that it is given, or else its default or nothing. -/
def Shown (shown given : Option Value) (default : Value) : Prop :=
  match given with
  | some value => ∃ other, shown = some other ∧ other.Alike value
  | none => shown = none ∨ shown = some default

namespace Shown

variable {shown given : Option Value} {default : Value}

section Codecs

variable {α : Type} {codec : Codec α} (rejects : codec.RejectsMaps) {initial : α}
  (read_default : codec.read default = .ok initial) (shows : Shown shown given default)

include rejects read_default shows

theorem gives_iff {value : α} :
    Gives (shown.map codec.read) initial value ↔ Gives (given.map codec.read) initial value := by
  cases given with
  | none =>
      rcases shows with rfl | rfl
      · exact Iff.rfl
      · rw [Option.map_some, read_default]
        exact ⟨fun same => (Except.ok.inj same).symm, fun same => congrArg Except.ok same.symm⟩
  | some value =>
      obtain ⟨other, rfl, alike⟩ := shows
      exact rejects.read_iff alike

theorem readable_iff :
    (∀ value, shown = some value → ∃ result, codec.read value = .ok result) ↔
      ∀ value, given = some value → ∃ result, codec.read value = .ok result := by
  cases given with
  | none =>
      refine ⟨fun _ => nofun, fun _ value found => ?_⟩
      rcases shows with rfl | rfl
      · cases found
      · cases found
        exact ⟨initial, read_default⟩
  | some value =>
      obtain ⟨other, rfl, alike⟩ := shows
      constructor
      · rintro reads _ ⟨⟩
        obtain ⟨result, read⟩ := reads other rfl
        exact ⟨result, (rejects.read_iff alike).1 read⟩
      · rintro reads _ ⟨⟩
        obtain ⟨result, read⟩ := reads value rfl
        exact ⟨result, (rejects.read_iff alike).2 read⟩

end Codecs

theorem of_stands {tree? : Option Layered} {value? : Option Value}
    (stands : Option.Rel Layered.Stands tree? value?) :
    Shown (tree?.map Layered.value) value? default := by
  cases stands with
  | none => exact .inl rfl
  | some stands => exact ⟨_, rfl, stands⟩

/-- A layer on top shows its own values first. -/
theorem join {below? above? : Option Layered} {over? : Option Value}
    (shows : Shown (below?.map Layered.value) given default)
    (stands : Option.Rel Layered.Stands above? over?) :
    Shown ((Layered.join? below? above?).map Layered.value) (over?.or given) default := by
  cases stands with
  | none =>
      rw [Layered.join?_none, Option.none_or]
      exact shows
  | some stands => exact of_stands stands.join?

end Shown

/-! ## Maps for a section -/

section Groups

variable {σ : Type} {kind : Section σ} {initial : σ}

/-- A tree is a map that shows values for the fields of a section. -/
def GroupShows (kind : Section σ) (initial : σ) (tree : Layered) (given : String → Option Value) : Prop :=
  ∃ source entries, tree = .group source entries ∧ InKeyOrder entries ∧
    ∀ field ∈ kind.fields, Shown ((SortedEntries.get? field.key entries).map Layered.value)
      (given field.key) (field.write initial)

/-- A written section is a map with the written fields at their keys. -/
theorem Section.exists_ofValue_write (makesUp : kind.MakesUp) (source : Source) (settings : σ) :
    ∃ entries, Layered.ofValue source (kind.write settings) = .group source entries ∧
      InKeyOrder entries ∧ ∀ field ∈ kind.fields,
        SortedEntries.get? field.key entries = some (Layered.ofValue source (field.write settings)) := by
  refine ⟨Layered.ofEntries source (SortedMap.ofList
      (kind.fields.map fun field => (field.key, field.write settings))).toList,
    by rw [Section.write, Value.ofEntries, Layered.ofValue],
    Layered.inKeyOrder_ofEntries (SortedMap.ofList _).ordered, fun field member => ?_⟩
  have distinct : ((kind.fields.map fun field => (field.key, field.write settings)).map
      Prod.fst).Nodup := by
    rw [List.map_map]
    exact Section.keys_nodup makesUp
  have found : SortedEntries.get? field.key (SortedMap.ofList
      (kind.fields.map fun field => (field.key, field.write settings))).toList =
        some (field.write settings) :=
    SortedMap.get?_insertAll_of_mem distinct (List.mem_map.2 ⟨field, member, rfl⟩)
  rw [Layered.get?_ofEntries, found, Option.map_some]

/-- The written defaults show no value. -/
theorem groupShows_write (makesUp : kind.MakesUp) {source : Source} :
    GroupShows kind initial (Layered.ofValue source (kind.write initial)) fun _ => none := by
  obtain ⟨entries, written, ordered, found⟩ := Section.exists_ofValue_write makesUp source initial
  refine ⟨source, entries, written, ordered, fun field member => .inr ?_⟩
  rw [found field member, Option.map_some, Layered.value_ofValue]

section Above

variable {source : Source} {entries : List (String × Layered)} (ordered : InKeyOrder entries)
  {over? : String → Option Value}
  (found : ∀ key, Option.Rel Layered.Stands (SortedEntries.get? key entries) (over? key))

include ordered found

theorem groupShows_group : GroupShows kind initial (.group source entries) over? :=
  ⟨source, entries, rfl, ordered, fun field _ => .of_stands (found field.key)⟩

theorem GroupShows.merge {tree : Layered} {given : String → Option Value}
    (shows : GroupShows kind initial tree given) :
    GroupShows kind initial (tree.merge (.group source entries))
      fun key => (over? key).or (given key) := by
  obtain ⟨below, lower, rfl, lower_ordered, shows⟩ := shows
  refine ⟨source, _, by rw [Layered.merge], Layered.inKeyOrder_mergeEntries lower_ordered ordered,
    fun field member => ?_⟩
  rw [Layered.get?_mergeEntries lower_ordered ordered]
  exact (shows field member).join (found field.key)

end Above

theorem stands_map {source : Source} {value? : Option Value} :
    Option.Rel Layered.Stands (value?.map (Layered.ofValue source)) value? := by
  cases value? with
  | none => exact .none
  | some value => exact .some Layered.stands_ofValue

/-- The entries of a document stand for their values. -/
theorem stands_ofEntries {source : Source} {entries : List (String × Value)} (key : String) :
    Option.Rel Layered.Stands (SortedEntries.get? key (Layered.ofEntries source entries))
      (SortedEntries.get? key entries) := by
  rw [Layered.get?_ofEntries]
  exact stands_map

end Groups

/-! ## What a file gives -/

namespace Settings

/-- The value that a file gives to a setting, as far as the environment leaves the section of the setting as it
is in the file. -/
def fileValue? (environment : List (String × String)) (entries : List (String × Value))
    (setting : Setting) : Option Value :=
  match setting.path with
  | [key] => SortedEntries.get? key entries
  | [name, key] =>
    match SortedEntries.get? name entries with
    | some (.map inner) => SortedEntries.get? key inner
    | some (.list items) =>
      if Environment.setsIn environment name then none else items[setting.place]?
    | _ => none
  | _ => none

/-- The value that environment and file give to a setting. -/
def given? (environment : List (String × String)) (entries : List (String × Value))
    (setting : Setting) : Option Value :=
  (Environment.value? environment setting.path).or (fileValue? environment entries setting)

/-- A value that a section can be read from. -/
inductive IsSectionValue : Value → Prop
  | map (entries : List (String × Value)) : IsSectionValue (.map entries)
  | list (values : List Value) : IsSectionValue (.list values)

/-- Whatever the file gives for a section can be read as one, or the environment replaces it. -/
def SectionsReadable (environment : List (String × String)) (entries : List (String × Value)) : Prop :=
  ∀ part ∈ sections, ∀ value, SortedEntries.get? part.key entries = some value →
    Environment.setsIn environment part.key = true ∨ IsSectionValue value

/-- The tree of a section shows what is given to its settings. -/
structure PartShows (environment : List (String × String)) (entries : List (String × Value))
    (part : SettingSection) (tree : Layered) : Prop where
  ordered : tree.InOrder
  readable : tree.IsSection ↔ ∀ value, SortedEntries.get? part.key entries = some value →
    Environment.setsIn environment part.key = true ∨ IsSectionValue value
  shown : ∀ (place : Nat) (field : SettingField part.Kind), part.layout.fields[place]? = some field →
    Shown (tree.child? field.key place) (given? environment entries (.inSection part place field))
      (field.write part.initial)

section Part

variable {environment : List (String × String)} {entries : List (String × Value)}
  {part : SettingSection} {tree : Layered}

/-- A map for a section shows what is given, unless the file gives the section in another form. -/
theorem partShows_of_group {given : String → Option Value}
    (shows : GroupShows part.layout part.initial tree given)
    (given_eq : ∀ place field, given? environment entries (.inSection part place field) = given field.key)
    (readable : ∀ value, SortedEntries.get? part.key entries = some value →
      Environment.setsIn environment part.key = true ∨ IsSectionValue value) :
    PartShows environment entries part tree := by
  obtain ⟨source, group, rfl, ordered, shows⟩ := shows
  refine ⟨ordered, ⟨fun _ => readable, fun _ => trivial⟩, fun place field field_eq => ?_⟩
  rw [given_eq]
  exact shows field (List.mem_of_getElem? field_eq)

theorem given?_inSection {place : Nat} {field : SettingField part.Kind} :
    given? environment entries (.inSection part place field) =
      (Environment.value? environment [part.key, field.key]).or
        (match SortedEntries.get? part.key entries with
        | some (.map inner) => SortedEntries.get? field.key inner
        | some (.list items) => if Environment.setsIn environment part.key then none else items[place]?
        | _ => none) := rfl

theorem ofValue_of_not_map {source : Source} {value : Value} (notMap : ∀ inner, value ≠ .map inner) :
    Layered.ofValue source value = .leaf source value := by
  cases value with
  | map inner => exact absurd rfl (notMap inner)
  | null | flag | unsigned | signed | large | number | text | list => rw [Layered.ofValue]

section Layers

variable (isSection : part.key ≠ plainKey) {source : Source} {env? : Option Layered}
  (env_shows : ShowsSection env? fun key => Environment.value? environment [part.key, key])

include env_shows

/-- A section that is a map as far as the file goes, and the environment on top. -/
theorem exists_partShows_of_group {file? : String → Option Value}
    (shows : GroupShows part.layout part.initial tree file?)
    (given_eq : ∀ place field, given? environment entries (.inSection part place field) =
      (Environment.value? environment [part.key, field.key]).or (file? field.key))
    (readable : ∀ value, SortedEntries.get? part.key entries = some value → IsSectionValue value) :
    ∃ merged, Layered.join? (some tree) env? = some merged ∧
      PartShows environment entries part merged := by
  have readable := fun value found => Or.inr (a := Environment.setsIn environment part.key = true)
    (readable value found)
  cases env_shows with
  | absent unset =>
      refine ⟨tree, rfl, partShows_of_group shows (fun place field => ?_) readable⟩
      have unset : Environment.value? environment [part.key, field.key] = none := unset field.key
      rw [given_eq, unset, Option.none_or]
  | present ordered set found =>
      exact ⟨_, rfl, partShows_of_group (shows.merge ordered found) given_eq readable⟩

include isSection

/-- A section that is no map in the file is left as it is or replaced as a whole. -/
theorem exists_partShows_of_leaf {value : Value}
    (given : SortedEntries.get? part.key entries = some value) (notMap : ∀ inner, value ≠ .map inner) :
    ∃ merged, Layered.join? (some (.leaf source value)) env? = some merged ∧
      PartShows environment entries part merged := by
  have set : Environment.setsIn environment part.key = true ↔
    ∃ key, Environment.value? environment [part.key, key] ≠ none := Environment.setsIn_iff isSection
  cases env_shows with
  | absent unset =>
      have unset_part : Environment.setsIn environment part.key = false :=
        Bool.eq_false_iff.2 fun sets => by
          obtain ⟨key, set⟩ := set.1 sets
          exact set (unset key)
      refine ⟨.leaf source value, rfl, trivial, ?_, fun place field _ => ?_⟩
      · rw [given, unset_part]
        cases value with
        | list values => exact ⟨by rintro _ _ ⟨⟩; exact .inr (.list values), fun _ => trivial⟩
        | map inner => exact absurd rfl (notMap inner)
        | null | flag | unsigned | signed | large | number | text =>
            refine ⟨False.elim, fun readable => ?_⟩
            rcases readable _ rfl with sets | sectionValue
            · cases sets
            · cases sectionValue
      · have unset : Environment.value? environment [part.key, field.key] = none := unset field.key
        rw [given?_inSection, given, unset, Option.none_or, unset_part]
        cases value with
        | list values =>
            simp only [Layered.child?, Bool.false_eq_true, if_false]
            cases values[place]? with
            | none => exact .inl rfl
            | some item => exact ⟨item, rfl, .inl rfl⟩
        | map inner => exact absurd rfl (notMap inner)
        | null | flag | unsigned | signed | large | number | text => exact .inl rfl
  | present ordered sets found =>
      obtain ⟨key, result, found_key⟩ := sets
      have set_part : Environment.setsIn environment part.key = true :=
        set.2 ⟨key, fun unset => by cases found_key.symm.trans unset⟩
      refine ⟨_, rfl, ?_⟩
      rw [Layered.merge]
      refine partShows_of_group (groupShows_group ordered found) (fun place field => ?_)
        fun _ _ => .inl set_part
      rw [given?_inSection, given, set_part]
      cases value with
      | map inner => exact absurd rfl (notMap inner)
      | null | flag | unsigned | signed | large | number | text | list => exact Option.or_none

/-- **The layers of a section show what is given to its settings.** -/
theorem exists_partShows (makesUp : part.layout.MakesUp) (inOrder : InOrder entries) :
    ∃ tree, Layered.join? (Layered.join?
        (some (Layered.ofValue .defaults (part.layout.write part.initial)))
        ((SortedEntries.get? part.key entries).map (Layered.ofValue source))) env? = some tree ∧
      PartShows environment entries part tree := by
  have default : GroupShows part.layout part.initial
      (Layered.ofValue .defaults (part.layout.write part.initial)) fun _ => none := groupShows_write makesUp
  cases given : SortedEntries.get? part.key entries with
  | none =>
      refine exists_partShows_of_group env_shows default (fun place field => ?_) ?_
      · rw [given?_inSection, given]
      · rw [given]
        nofun
  | some value =>
      by_cases isMap : ∃ inner, value = .map inner
      · obtain ⟨inner, rfl⟩ := isMap
        have ordered : InKeyOrder (Layered.ofEntries source inner) := Layered.inKeyOrder_ofEntries
          (inOrder.values _ (SortedEntries.mem_of_get?_eq_some given) inner rfl)
        rw [Option.map_some, Layered.ofValue]
        refine exists_partShows_of_group env_shows
          (default.merge ordered stands_ofEntries) (fun place field => ?_) ?_
        · rw [given?_inSection, given, Option.or_none]
        · rw [given]
          rintro _ ⟨⟩
          exact .map inner
      · have notMap : ∀ inner, value ≠ .map inner := fun inner same => isMap ⟨inner, same⟩
        obtain ⟨_, _, group, _⟩ := default
        rw [Option.map_some, ofValue_of_not_map notMap, group, Layered.join?, Layered.merge]
        exact exists_partShows_of_leaf isSection env_shows given notMap

end Layers

end Part

/-! ## Whole configurations -/

/-- The written defaults. -/
def initialEntries : List (String × Value) :=
  sections.map (fun part => (part.key, part.layout.write part.initial)) ++ [(plainKey, .text "./")]

theorem get?_initialEntries {key : String} {value : Value} (member : (key, value) ∈ initialEntries) :
    SortedEntries.get? key (SortedMap.ofList initialEntries).toList = some value :=
  SortedMap.get?_insertAll_of_mem (by decide) member

/-- The layer of the defaults, its entries as they are written. -/
theorem defaultLayer_eq : defaultLayer = .group .defaults
    (Layered.ofEntries .defaults (SortedMap.ofList initialEntries).toList) := by
  have written : write {} = Value.ofEntries initialEntries := rfl
  rw [defaultLayer, written, Value.ofEntries, Layered.ofValue]

section Root

variable {environment : List (String × String)} {entries : List (String × Value)} {source : Source}
  {later : List (String × Layered)}

/-- The entries of all layers: the defaults, a document and the environment. -/
def mergedEntries (source : Source) (entries : List (String × Value)) (later : List (String × Layered)) :
    List (String × Layered) :=
  Layered.mergeEntries (Layered.mergeEntries
    (Layered.ofEntries .defaults (SortedMap.ofList initialEntries).toList)
    (Layered.ofEntries source entries)) later

theorem outputDirectory_rejectsMaps : Codec.text.RejectsMaps :=
  (Setting.forall_mem_all_iff.1 Setting.rejectsMaps).2

variable (inOrder : InOrder entries) (shows : Shows later (Environment.value? environment))

include inOrder shows

theorem mergedEntries_inKeyOrder : InKeyOrder (mergedEntries source entries later) :=
  Layered.inKeyOrder_mergeEntries (Layered.inKeyOrder_mergeEntries
    (Layered.inKeyOrder_ofEntries (SortedMap.ofList _).ordered)
    (Layered.inKeyOrder_ofEntries inOrder.keys)) shows.ordered

theorem get?_mergedEntries {key : String} {initial : Value} (member : (key, initial) ∈ initialEntries) :
    SortedEntries.get? key (mergedEntries source entries later) =
      Layered.join? (Layered.join? (some (Layered.ofValue .defaults initial))
        ((SortedEntries.get? key entries).map (Layered.ofValue source)))
          (SortedEntries.get? key later) := by
  have defaults_ordered : InKeyOrder
      (Layered.ofEntries .defaults (SortedMap.ofList initialEntries).toList) :=
    Layered.inKeyOrder_ofEntries (SortedMap.ofList initialEntries).ordered
  have document_ordered : InKeyOrder (Layered.ofEntries source entries) :=
    Layered.inKeyOrder_ofEntries inOrder.keys
  rw [mergedEntries, Layered.get?_mergeEntries
      (Layered.inKeyOrder_mergeEntries defaults_ordered document_ordered) shows.ordered,
    Layered.get?_mergeEntries defaults_ordered document_ordered, Layered.get?_ofEntries,
    Layered.get?_ofEntries, get?_initialEntries member, Option.map_some]

/-- The merged tree of a section shows what is given to its settings. -/
theorem get?_mergedEntries_section {part : SettingSection} (member : part ∈ sections) :
    ∃ tree, SortedEntries.get? part.key (mergedEntries source entries later) = some tree ∧
      PartShows environment entries part tree := by
  rw [get?_mergedEntries inOrder shows
    (List.mem_append_left _ (List.mem_map.2 ⟨part, member, rfl⟩))]
  have isSection := sections_keys part member
  exact exists_partShows isSection (shows.sections part.key isSection) (sections_makeUp part member) inOrder

/-- The merged tree shows what is given to the directory for output. -/
theorem shown_plain :
    Shown ((SortedEntries.get? plainKey (mergedEntries source entries later)).map Layered.value)
      (given? environment entries .outputDirectory) (.text "./") := by
  rw [get?_mergedEntries inOrder shows (List.mem_append_right _ List.mem_cons_self)]
  have default : Shown ((some (Layered.ofValue .defaults (.text "./"))).map Layered.value) none
      (.text "./") := .inr (congrArg some (Layered.value_ofValue _ _))
  have file := default.join (@stands_map source (SortedEntries.get? plainKey entries))
  rw [Option.or_none] at file
  exact file.join shows.plain

section Section

variable {part : SettingSection} (member : part ∈ sections)

include member

theorem gives_section_iff {settings : Settings} :
    Gives ((SortedEntries.get? part.key (mergedEntries source entries later)).map
        (part.layout.read [part.key] part.initial)) (part.get {}) (part.get settings) ↔
      (∀ value, SortedEntries.get? part.key entries = some value →
        Environment.setsIn environment part.key = true ∨ IsSectionValue value) ∧
      ∀ (place : Nat) (field : SettingField part.Kind), part.layout.fields[place]? = some field →
        Gives ((given? environment entries (.inSection part place field)).map field.codec.read)
          (field.get (part.get {})) (field.get (part.get settings)) := by
  obtain ⟨tree, found, partShows⟩ : ∃ tree, SortedEntries.get? part.key
      (mergedEntries source entries later) = some tree ∧ PartShows environment entries part tree :=
    get?_mergedEntries_section inOrder shows member
  rw [found]
  show part.layout.read [part.key] part.initial tree = .ok (part.get settings) ↔ _
  rw [Section.read_eq_ok_iff (sections_makeUp part member) partShows.ordered]
  refine and_congr partShows.readable (forall₃_congr fun place field field_eq => ?_)
  have field_mem := List.mem_of_getElem? field_eq
  rw [sections_initial part member]
  exact (partShows.shown place field field_eq).gives_iff
    (fields_rejectMaps part member field field_mem) (fields_read_initial part member field field_mem)

theorem readable_section_iff :
    (∀ tree, SortedEntries.get? part.key (mergedEntries source entries later) = some tree →
        ∃ value, part.layout.read [part.key] part.initial tree = .ok value) ↔
      (∀ value, SortedEntries.get? part.key entries = some value →
        Environment.setsIn environment part.key = true ∨ IsSectionValue value) ∧
      ∀ (place : Nat) (field : SettingField part.Kind), part.layout.fields[place]? = some field →
        ∀ value, given? environment entries (.inSection part place field) = some value →
          ∃ result, field.codec.read value = .ok result := by
  obtain ⟨tree, found, partShows⟩ : ∃ tree, SortedEntries.get? part.key
      (mergedEntries source entries later) = some tree ∧ PartShows environment entries part tree :=
    get?_mergedEntries_section inOrder shows member
  have only : (∀ other, some tree = some other →
      ∃ value, part.layout.read [part.key] part.initial other = .ok value) ↔
        ∃ value, part.layout.read [part.key] part.initial tree = .ok value :=
    ⟨fun all => all tree rfl, by rintro read _ ⟨⟩; exact read⟩
  rw [found, only, Section.exists_read_iff (sections_makeUp part member) partShows.ordered]
  refine and_congr partShows.readable (forall₃_congr fun place field field_eq => ?_)
  have field_mem := List.mem_of_getElem? field_eq
  exact (partShows.shown place field field_eq).readable_iff
    (fields_rejectMaps part member field field_mem) (fields_read_initial part member field field_mem)

end Section

/-- **A merged configuration has what environment and file give to each setting.** -/
theorem read_merged_eq_ok_iff {settings : Settings} {last : Source} :
    read (.group last (mergedEntries source entries later)) = .ok settings ↔
      SectionsReadable environment entries ∧ ∀ setting ∈ Setting.all,
        Gives ((given? environment entries setting).map setting.codec.read) (setting.get {})
          (setting.get settings) := by
  rw [read_eq_ok_iff_members (mergedEntries_inKeyOrder inOrder shows), readers, List.forall_mem_append,
    List.forall_mem_map, List.forall_mem_singleton, Setting.forall_mem_all_iff, SectionsReadable,
    ← and_assoc, ← forall₂_and]
  refine and_congr (forall₂_congr fun part member => gives_section_iff inOrder shows member) ?_
  have plain : Gives (((SortedEntries.get? plainKey (mergedEntries source entries later)).map
        Layered.value).map Codec.text.read) "./" settings.outputDirectory ↔
      Gives ((given? environment entries .outputDirectory).map Codec.text.read) "./"
        settings.outputDirectory := (shown_plain inOrder shows).gives_iff outputDirectory_rejectsMaps rfl
  rw [Option.map_map] at plain
  exact (gives_map_congr fun entry => Section.locate_eq_ok_iff).trans plain

/-- **A merged configuration can be read when each setting takes what it is given.** -/
theorem exists_read_merged_iff {last : Source} :
    (∃ settings, read (.group last (mergedEntries source entries later)) = .ok settings) ↔
      SectionsReadable environment entries ∧ ∀ setting ∈ Setting.all, ∀ value,
        given? environment entries setting = some value →
          ∃ result, setting.codec.read value = .ok result := by
  rw [exists_read_iff_members (mergedEntries_inKeyOrder inOrder shows), readers, List.forall_mem_append,
    List.forall_mem_map, List.forall_mem_singleton, Setting.forall_mem_all_iff, SectionsReadable,
    ← and_assoc, ← forall₂_and]
  refine and_congr (forall₂_congr fun part member => readable_section_iff inOrder shows member) ?_
  have plain : (∀ value, (SortedEntries.get? plainKey (mergedEntries source entries later)).map
        Layered.value = some value → ∃ result, Codec.text.read value = .ok result) ↔
      ∀ value, given? environment entries .outputDirectory = some value →
        ∃ result, Codec.text.read value = .ok result :=
    (shown_plain inOrder shows).readable_iff outputDirectory_rejectsMaps rfl
  refine Iff.trans ?_ plain
  constructor
  · intro reads value shown
    obtain ⟨entry, found, rfl⟩ := Option.map_eq_some_iff.1 shown
    obtain ⟨result, read⟩ := reads entry found
    exact ⟨result, Section.locate_eq_ok_iff.1 read⟩
  · intro reads entry found
    obtain ⟨result, read⟩ := reads entry.value (Option.map_eq_some_iff.2 ⟨entry, found, rfl⟩)
    exact ⟨result, Section.locate_eq_ok_iff.2 read⟩

end Root

/-! ## Loading -/

section Reading

variable {environment : List (String × String)} {later : List (String × Layered)}
  (layer_eq : Environment.layer environment = .group .environment later) {settings : Settings}

include layer_eq

/-- A document is read between the defaults and the environment, whether it is sound or not. -/
theorem ofDocument_eq_ok_iff {document : ConfigurationDocument} :
    ofDocument document [Environment.layer environment] = .ok settings ↔
      ∃ entries, document.entries = .ok entries ∧
        read (.group .environment (mergedEntries document.source entries later)) = .ok settings := by
  have judged {α : Type} {result : Except SettingError α} {value : α} :
      document.judge result = .ok value ↔ result = .ok value := by
    cases result <;> simp [ConfigurationDocument.judge]
  rw [ofDocument, judged, Attempt.bind_eq_ok_iff, ConfigurationDocument.layer]
  have merged (entries : List (String × Value)) :
      (defaultLayer.merge (.group document.source (Layered.ofEntries document.source entries))).merge
        (Environment.layer environment) =
          .group .environment (mergedEntries document.source entries later) := by
    rw [layer_eq, defaultLayer_eq, Layered.merge, Layered.merge, mergedEntries]
  cases document.entries with
  | error mistake => simp
  | ok entries => simp [merged]

theorem read_defaults_eq_ok_iff {source : Source} :
    read (defaultLayer.merge (Environment.layer environment)) = .ok settings ↔
      read (.group .environment (mergedEntries source [] later)) = .ok settings := by
  rw [layer_eq, defaultLayer_eq, Layered.merge, mergedEntries, Layered.ofEntries,
    Layered.mergeEntries_nil_right]

end Reading

/-- Where the values of a file come from; without a file there are none. -/
def fileSource : Option String → Source
  | none => .defaults
  | some path => .file path (formatOf path)

theorem refuse_eq_ok_iff {α : Type} {result : Except SettingError α} {value : α} :
    refuse result = .ok value ↔ result = .ok value := Attempt.mapError_eq_ok_iff

theorem source_read {source : Source} {text : String} {format : FileFormat} :
    (ConfigurationDocument.read source text format).source = source := by
  cases format with
  | yaml => rfl
  | toml =>
      rw [ConfigurationDocument.read]
      split <;> rfl

variable {path? : Option String} {text? : String → Option String} {environment : List (String × String)}

/-- Loading reads the layers of the defaults, the file and the environment. -/
theorem load_eq_ok_iff_read {later : List (String × Layered)}
    (layer_eq : Environment.layer environment = .group .environment later) {settings : Settings} :
    load path? text? environment = .ok settings ↔ ∃ entries, fileEntries? path? text? = some entries ∧
      read (.group .environment (mergedEntries (fileSource path?) entries later)) = .ok settings := by
  cases path? with
  | none =>
      rw [load, refuse_eq_ok_iff, @read_defaults_eq_ok_iff _ _ layer_eq _ .defaults]
      simp [fileEntries?, fileSource]
  | some path =>
      rw [load, fileEntries?]
      cases text? path with
      | none => simp
      | some text =>
          rw [refuse_eq_ok_iff, ofDocument_eq_ok_iff layer_eq, source_read, fileSource]
          refine exists_congr fun entries => and_congr_left fun _ => ?_
          rw [Option.bind_some]
          cases (ConfigurationDocument.read (.file path (formatOf path)) text (formatOf path)).entries <;>
            simp [Except.toOption]

/-- **What loading gives**: each setting has what environment or file give it, else its default. -/
theorem load_eq_ok_iff {settings : Settings} :
    load path? text? environment = .ok settings ↔ ∃ entries, fileEntries? path? text? = some entries ∧
      SectionsReadable environment entries ∧ ∀ setting ∈ Setting.all,
        Gives ((given? environment entries setting).map setting.codec.read) (setting.get {})
          (setting.get settings) := by
  obtain ⟨later, layer_eq, shows⟩ := Environment.shows_layer environment
  rw [load_eq_ok_iff_read layer_eq]
  exact exists_congr fun entries => and_congr_right fun given =>
    read_merged_eq_ok_iff (inOrder_fileEntries? given) shows

/-- **When loading succeeds.** -/
theorem exists_load_iff :
    (∃ settings, load path? text? environment = .ok settings) ↔
      ∃ entries, fileEntries? path? text? = some entries ∧ SectionsReadable environment entries ∧
        ∀ setting ∈ Setting.all, ∀ value, given? environment entries setting = some value →
          ∃ result, setting.codec.read value = .ok result := by
  obtain ⟨later, layer_eq, shows⟩ := Environment.shows_layer environment
  simp only [load_eq_ok_iff_read layer_eq]
  rw [exists_comm]
  refine exists_congr fun entries => ?_
  rw [exists_and_left]
  exact and_congr_right fun given => exists_read_merged_iff (inOrder_fileEntries? given) shows

/-! ### When loading succeeds, computed -/

/-- Whether a section can be read from a value. -/
def isSectionValue : Value → Bool
  | .map _ | .list _ => true
  | _ => false

theorem isSectionValue_iff {value : Value} : isSectionValue value = true ↔ IsSectionValue value := by
  cases value with
  | map entries => exact ⟨fun _ => .map entries, fun _ => rfl⟩
  | list values => exact ⟨fun _ => .list values, fun _ => rfl⟩
  | null | flag | unsigned | signed | large | number | text => exact ⟨nofun, nofun⟩

/-- Whether everything that environment and file give can be read. -/
def isReadable (environment : List (String × String)) (entries : List (String × Value)) : Bool :=
  (sections.all fun part => (SortedEntries.get? part.key entries).all fun value =>
    Environment.setsIn environment part.key || isSectionValue value) &&
  Setting.all.all fun setting => (given? environment entries setting).all fun value =>
    (setting.codec.read value).isOk

/-- Whether a given value is a word. -/
def isGivenWord (word : UInt64) : Option Value → Bool
  | some (.unsigned value) => value = word
  | _ => false

theorem eq_of_isGivenWord {word : UInt64} {value? : Option Value} (isWord : isGivenWord word value? = true) :
    value? = some (.unsigned word) := by
  rcases value? with _ | value
  · cases isWord
  · cases value with
    | unsigned given => rw [of_decide_eq_true isWord]
    | null | flag | signed | large | number | text | list | map => cases isWord

theorem exists_load_of_isReadable {entries : List (String × Value)}
    (given : fileEntries? path? text? = some entries) (readable : isReadable environment entries = true) :
    ∃ settings, load path? text? environment = .ok settings := by
  simp only [isReadable, Bool.and_eq_true, List.all_eq_true, Option.all_eq_true, Bool.or_eq_true,
    isSectionValue_iff] at readable
  refine exists_load_iff.2 ⟨entries, given, readable.1, fun setting member value gives => ?_⟩
  have isOk := readable.2 setting member value gives
  cases read : setting.codec.read value with
  | ok result => exact ⟨result, rfl⟩
  | error cause =>
      rw [read] at isOk
      cases isOk

end Settings

end MemoryFabric

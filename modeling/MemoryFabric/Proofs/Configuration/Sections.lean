import MemoryFabric.Proofs.Configuration.Members

/-!
# Reading sections

A section can be read from a map or a sequence.  Either way a field has the value at its key or place, and its
default where there is none; the section cannot be read when it is something else, or when a field does not take
its value (**`Section.read_eq_ok_iff`**, **`Section.exists_read_iff`**).
-/

namespace MemoryFabric

set_option autoImplicit false

variable {σ : Type}

/-- The tree of a section is a map or a sequence. -/
def Layered.IsSection : Layered → Prop
  | .group _ _ => True
  | .leaf _ (.list _) => True
  | .leaf _ _ => False

/-- The value for a field in the tree of a section: at its key in a map, at its place in a sequence. -/
def Layered.child? (tree : Layered) (key : String) (place : Nat) : Option Value :=
  match tree with
  | .group _ entries => (SortedEntries.get? key entries).map Layered.value
  | .leaf _ (.list values) => values[place]?
  | .leaf _ _ => none

/-- The maps in a tree for a section are in order. -/
def Layered.InOrder : Layered → Prop
  | .group _ entries => InKeyOrder entries
  | .leaf _ _ => True

namespace Section

theorem locate_eq_ok_iff {α : Type} {path : List String} {source : Source}
    {result : Except ValueError α} {value : α} :
    locate path source result = .ok value ↔ result = .ok value := by
  rw [locate, Attempt.mapError_eq_ok_iff]

theorem locate_map {α β : Type} {path : List String} {source : Source} {change : α → β}
    {result : Except ValueError α} :
    locate path source (result.map change) = (locate path source result).map change := by
  cases result <;> rfl

section Maps

variable {kind : Section σ} {path : List String}

/-- How a field is read. -/
def fieldReader (path : List String) (field : SettingField σ) : Reader σ where
  toMember := field.toMember
  read entry := locate (path ++ [field.key]) entry.source (field.codec.read entry.value)

/-- The fields with how they are read. -/
def readers (kind : Section σ) (path : List String) : List (Reader σ) :=
  kind.fields.map (fieldReader path)

/-- The fields can be set independently, and there are no other members. -/
abbrev MakesUp (kind : Section σ) : Prop := MakeUp (kind.fields.map SettingField.toMember)

theorem readers_makesUp (makesUp : kind.MakesUp) : Reader.MakesUp (kind.readers path) := by
  rw [Reader.MakesUp, readers, List.map_map]
  exact makesUp

theorem find?_readers {key : String} :
    ((kind.readers path).find? fun reader => reader.key = key) =
      (kind.fields.find? fun field => field.key = key).map (fieldReader path) := by
  rw [readers, List.find?_map]
  rfl

/-- The entries of a map are assignments to the fields of their keys. -/
theorem readEntries_eq {settings : σ} {entries : List (String × Layered)} :
    kind.readEntries path settings entries =
      Assignment.applyAll settings (Reader.assignments (kind.readers path) entries) := by
  induction entries generalizing settings with
  | nil => rfl
  | cons head rest ih =>
      obtain ⟨key, entry⟩ := head
      rw [readEntries, readEntry]
      cases found : kind.fields.find? fun field => field.key = key with
      | none =>
          rw [Reader.assignments_cons_of_none (by rw [find?_readers, found, Option.map_none])]
          exact ih
      | some field =>
          obtain rfl : field.key = key := by simpa using List.find?_some found
          rw [Reader.assignments_cons_of_some (by rw [find?_readers, found, Option.map_some]),
            Assignment.applyAll]
          simp only [SettingField.read, locate_map, ih]
          rfl

variable (makesUp : kind.MakesUp) {defaults : σ} {source : Source} {entries : List (String × Layered)}
  (ordered : InKeyOrder entries)

include makesUp ordered

theorem read_group_eq_ok_iff {settings : σ} :
    kind.read path defaults (.group source entries) = .ok settings ↔
      ∀ field ∈ kind.fields, Gives
        (((SortedEntries.get? field.key entries).map Layered.value).map field.codec.read)
          (field.get defaults) (field.get settings) := by
  rw [read, readEntries_eq, Reader.readAll_eq_ok_iff (readers_makesUp makesUp) ordered, readers,
    List.forall_mem_map]
  refine forall₂_congr fun field _ => ?_
  rw [Option.map_map]
  exact gives_map_congr fun entry => locate_eq_ok_iff

theorem exists_read_group_iff :
    (∃ settings, kind.read path defaults (.group source entries) = .ok settings) ↔
      ∀ field ∈ kind.fields, ∀ value,
        (SortedEntries.get? field.key entries).map Layered.value = some value →
          ∃ result, field.codec.read value = .ok result := by
  rw [read, readEntries_eq, Reader.exists_readAll_iff (readers_makesUp makesUp) ordered, readers,
    List.forall_mem_map]
  refine forall₂_congr fun field _ => ?_
  constructor
  · rintro all _ given
    obtain ⟨entry, found, rfl⟩ := Option.map_eq_some_iff.1 given
    obtain ⟨result, read⟩ := all entry found
    exact ⟨result, locate_eq_ok_iff.1 read⟩
  · intro all entry found
    obtain ⟨result, read⟩ := all entry.value (Option.map_eq_some_iff.2 ⟨entry, found, rfl⟩)
    exact ⟨result, locate_eq_ok_iff.2 read⟩

end Maps

/-! ## Sequences -/

section Sequences

variable {path : List String} {source : Source}

/-- The items of a sequence as assignments to fields in their order. -/
def itemAssignments (path : List String) (source : Source) (place : Nat) :
    List (SettingField σ) → List Value → List (Assignment σ)
  | field :: fields, value :: values =>
    ⟨field.toMember, locate (path ++ [toString place]) source (field.codec.read value)⟩ ::
      itemAssignments path source (place + 1) fields values
  | _, _ => []

theorem readItems_eq {settings : σ} {place : Nat} {fields : List (SettingField σ)} {values : List Value} :
    readItems path source settings place fields values =
      Assignment.applyAll settings (itemAssignments path source place fields values) := by
  induction fields generalizing settings place values with
  | nil => cases values <;> rfl
  | cons field fields ih =>
      cases values with
      | nil => rfl
      | cons value values =>
          rw [readItems, itemAssignments, Assignment.applyAll]
          simp only [SettingField.read, locate_map, ih]

theorem mem_itemAssignments_iff {place : Nat} {fields : List (SettingField σ)} {values : List Value}
    {assignment : Assignment σ} :
    assignment ∈ itemAssignments path source place fields values ↔
      ∃ (index : Nat) (field : SettingField σ) (value : Value), fields[index]? = some field ∧ values[index]? = some value ∧
        ⟨field.toMember, locate (path ++ [toString (place + index)]) source (field.codec.read value)⟩ =
          assignment := by
  induction fields generalizing place values with
  | nil =>
      have none : itemAssignments path source place ([] : List (SettingField σ)) values = [] := by
        cases values <;> rfl
      simp [none]
  | cons field fields ih =>
      cases values with
      | nil => simp [itemAssignments]
      | cons value values =>
          rw [itemAssignments, List.mem_cons, ih]
          constructor
          · rintro (rfl | ⟨index, later, item, field_eq, item_eq, rfl⟩)
            · exact ⟨0, field, value, rfl, rfl, rfl⟩
            · exact ⟨index + 1, later, item, field_eq, item_eq, by rw [Nat.add_right_comm]; rfl⟩
          · rintro ⟨index, later, item, field_eq, item_eq, rfl⟩
            cases index with
            | zero =>
                cases field_eq
                cases item_eq
                exact .inl rfl
            | succ index =>
                exact .inr ⟨index, later, item, field_eq, item_eq, by rw [Nat.add_right_comm]; rfl⟩

theorem itemAssignments_keys_sublist {place : Nat} {fields : List (SettingField σ)}
    {values : List Value} :
    ((itemAssignments path source place fields values).map
      fun assignment => assignment.member.key).Sublist (fields.map fun field => field.key) := by
  induction fields generalizing place values with
  | nil => cases values <;> exact List.Sublist.refl _
  | cons field fields ih =>
      cases values with
      | nil => exact List.nil_sublist _
      | cons value values => exact ih.cons_cons _

variable {kind : Section σ} (makesUp : kind.MakesUp) {defaults : σ} {values : List Value}

include makesUp

theorem keys_nodup : (kind.fields.map fun field => field.key).Nodup := by
  have keys := makesUp.distinct
  rwa [List.map_map] at keys

/-- Fields at different places have different keys. -/
theorem place_eq_of_key {place other : Nat} {field otherField : SettingField σ}
    (field_eq : kind.fields[place]? = some field) (other_eq : kind.fields[other]? = some otherField)
    (same : field.key = otherField.key) : place = other := by
  have length := (List.getElem?_eq_some_iff.1 field_eq).1
  refine (List.getElem?_inj (by simpa using length) (keys_nodup makesUp)).1 ?_
  rw [List.getElem?_map, List.getElem?_map, field_eq, other_eq, Option.map_some, Option.map_some, same]

theorem read_list_eq_ok_iff {settings : σ} :
    kind.read path defaults (.leaf source (.list values)) = .ok settings ↔
      ∀ (place : Nat) (field : SettingField σ), kind.fields[place]? = some field →
        Gives (values[place]?.map field.codec.read) (field.get defaults) (field.get settings) := by
  have known : ∀ assignment ∈ itemAssignments path source 0 kind.fields values,
      assignment.member ∈ kind.fields.map SettingField.toMember := by
    intro assignment assigned
    obtain ⟨index, field, value, field_eq, _, rfl⟩ := mem_itemAssignments_iff.1 assigned
    exact List.mem_map_of_mem (List.mem_of_getElem? field_eq)
  rw [read, readItems_eq, Assignment.applyAll_eq_ok_iff makesUp known
    (itemAssignments_keys_sublist.nodup (keys_nodup makesUp))]
  constructor
  · rintro ⟨all, kept⟩ place field field_eq
    cases value_eq : values[place]? with
    | some value =>
        exact locate_eq_ok_iff.1
          (all _ (mem_itemAssignments_iff.2 ⟨place, field, value, field_eq, value_eq, rfl⟩))
    | none =>
        refine kept field.toMember (List.mem_map_of_mem (List.mem_of_getElem? field_eq)) fun assigned => ?_
        obtain ⟨_, member, key_eq⟩ := List.mem_map.1 assigned
        obtain ⟨other, otherField, value, other_eq, item_eq, rfl⟩ := mem_itemAssignments_iff.1 member
        rw [place_eq_of_key makesUp other_eq field_eq key_eq, value_eq] at item_eq
        cases item_eq
  · intro gives
    constructor
    · intro assignment assigned
      obtain ⟨place, field, value, field_eq, value_eq, rfl⟩ := mem_itemAssignments_iff.1 assigned
      have given := gives place field field_eq
      rw [value_eq] at given
      exact locate_eq_ok_iff.2 given
    · intro member member_mem absent
      obtain ⟨field, field_mem, rfl⟩ := List.mem_map.1 member_mem
      obtain ⟨place, field_eq⟩ := List.mem_iff_getElem?.1 field_mem
      have given := gives place field field_eq
      cases value_eq : values[place]? with
      | none => rwa [value_eq] at given
      | some value =>
          exact absurd (List.mem_map.2 ⟨_, mem_itemAssignments_iff.2
            ⟨place, field, value, field_eq, value_eq, rfl⟩, rfl⟩) absent

omit makesUp in
theorem exists_read_list_iff :
    (∃ settings, kind.read path defaults (.leaf source (.list values)) = .ok settings) ↔
      ∀ (place : Nat) (field : SettingField σ), kind.fields[place]? = some field → ∀ value, values[place]? = some value →
        ∃ result, field.codec.read value = .ok result := by
  rw [read, readItems_eq, Assignment.exists_applyAll_iff]
  constructor
  · intro all place field field_eq value value_eq
    obtain ⟨result, read⟩ :=
      all _ (mem_itemAssignments_iff.2 ⟨place, field, value, field_eq, value_eq, rfl⟩)
    exact ⟨result, locate_eq_ok_iff.1 read⟩
  · intro all assignment assigned
    obtain ⟨place, field, value, field_eq, value_eq, rfl⟩ := mem_itemAssignments_iff.1 assigned
    obtain ⟨result, read⟩ := all place field field_eq value value_eq
    exact ⟨result, locate_eq_ok_iff.2 read⟩

end Sequences

/-! ## Either form -/

section Either

variable {kind : Section σ} (makesUp : kind.MakesUp) {path : List String} {defaults : σ}
  {tree : Layered} (ordered : tree.InOrder)

include makesUp ordered

/-- **A section has what its tree gives for each field.** -/
theorem read_eq_ok_iff {settings : σ} :
    kind.read path defaults tree = .ok settings ↔ tree.IsSection ∧
      ∀ (place : Nat) (field : SettingField σ), kind.fields[place]? = some field →
        Gives ((tree.child? field.key place).map field.codec.read) (field.get defaults)
          (field.get settings) := by
  cases tree with
  | group source entries =>
      rw [read_group_eq_ok_iff makesUp ordered, and_iff_right (by trivial : Layered.IsSection _)]
      constructor
      · exact fun gives place field field_eq => gives field (List.mem_of_getElem? field_eq)
      · intro gives field field_mem
        obtain ⟨place, field_eq⟩ := List.mem_iff_getElem?.1 field_mem
        exact gives place field field_eq
  | leaf source value =>
      cases value with
      | list values =>
          rw [read_list_eq_ok_iff makesUp, and_iff_right (by trivial : Layered.IsSection _)]
          rfl
      | null | flag | unsigned | signed | large | number | text | map =>
          exact ⟨nofun, fun given => given.1.elim⟩

/-- **A section can be read when its tree is a map or a sequence and each field takes what it is given.** -/
theorem exists_read_iff :
    (∃ settings, kind.read path defaults tree = .ok settings) ↔ tree.IsSection ∧
      ∀ (place : Nat) (field : SettingField σ), kind.fields[place]? = some field → ∀ value,
        tree.child? field.key place = some value → ∃ result, field.codec.read value = .ok result := by
  cases tree with
  | group source entries =>
      rw [exists_read_group_iff makesUp ordered, and_iff_right (by trivial : Layered.IsSection _)]
      constructor
      · exact fun takes place field field_eq => takes field (List.mem_of_getElem? field_eq)
      · intro takes field field_mem
        obtain ⟨place, field_eq⟩ := List.mem_iff_getElem?.1 field_mem
        exact takes place field field_eq
  | leaf source value =>
      cases value with
      | list values =>
          rw [exists_read_list_iff, and_iff_right (by trivial : Layered.IsSection _)]
          rfl
      | null | flag | unsigned | signed | large | number | text | map =>
          exact ⟨nofun, fun given => given.1.elim⟩

end Either

end Section

end MemoryFabric

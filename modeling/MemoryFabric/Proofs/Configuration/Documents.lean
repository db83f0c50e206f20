import MemoryFabric.Configuration.Load
import MemoryFabric.Proofs.Attempt
import MemoryFabric.Proofs.SortedMap

/-!
# The order of what documents give

Merging relies on maps in the order of their keys.  Both notations give such maps: the root of a document, and
every map directly inside (**`ConfigurationDocument.inOrder_entries`**).
-/

namespace MemoryFabric

set_option autoImplicit false

/-- If the value is a map, then it is in the order of its keys. -/
def Value.InOrder (value : Value) : Prop := ∀ entries, value = .map entries → InKeyOrder entries

/-- The entries are in the order of their keys, and so is every map directly inside. -/
structure InOrder (entries : List (String × Value)) : Prop where
  keys : InKeyOrder entries
  values : ∀ entry ∈ entries, entry.2.InOrder

theorem Value.inOrder_ofEntries {entries : List (String × Value)} : (Value.ofEntries entries).InOrder := by
  rintro _ ⟨⟩
  exact (SortedMap.ofList entries).ordered

theorem Value.inOrder_singleton {key : String} {value : Value} : (Value.map [(key, value)]).InOrder := by
  rintro _ ⟨⟩
  exact List.pairwise_singleton _ _

/-- A map of entries has only values of the entries. -/
theorem inOrder_ofList {entries : List (String × Value)}
    (inside : ∀ entry ∈ entries, entry.2.InOrder) : InOrder (SortedMap.ofList entries).toList := by
  refine ⟨(SortedMap.ofList entries).ordered, fun entry member => ?_⟩
  rcases SortedMap.mem_of_get?_insertAll (SortedMap.mem_toList_iff.1 member) with found | found
  · exact inside _ found
  · cases found

/-! ## YAML -/

namespace Yaml

theorem valueOfInteger?_ne_map {isNegative : Bool} {n : Int} {entries : List (String × Value)} :
    valueOfInteger? isNegative n ≠ some (.map entries) := by
  rw [valueOfInteger?]
  split_ifs <;> nofun

theorem integer_ne_map {integer? : Option Int} {isNegative : Bool} {entries : List (String × Value)} :
    integer?.bind (valueOfInteger? isNegative) ≠ some (.map entries) := by
  intro read
  obtain ⟨_, _, value_eq⟩ := Option.bind_eq_some_iff.1 read
  exact valueOfInteger?_ne_map value_eq

theorem plainValue_ne_map {text : String} {entries : List (String × Value)} :
    plainValue text ≠ .map entries := by
  unfold plainValue
  split
  · nofun
  cases flag? text with
  | some flag => nofun
  | none =>
      simp only [Option.map_none, Option.getD_none]
      cases integer : (integer? text.toList).bind
          (valueOfInteger? (decide (text.toList.head? = some '-'))) with
      | some value =>
          simp only [Option.some_or, Option.getD_some]
          rintro rfl
          exact integer_ne_map integer
      | none =>
          simp only [Option.none_or]
          split
          · nofun
          · cases number? text.toList <;> nofun

theorem scalarValue?_ne_map {tag : Option Tag} {text : String} {isPlain : Bool}
    {entries : List (String × Value)} : scalarValue? tag text isPlain ≠ some (.map entries) := by
  unfold scalarValue?
  split
  · cases flag? text <;> nofun
  · exact integer_ne_map
  · cases number? text.toList <;> nofun
  · split <;> nofun
  · split
    · exact fun same => plainValue_ne_map (Option.some.inj same)
    · nofun
  · split
    · exact fun same => plainValue_ne_map (Option.some.inj same)
    · nofun
  · nofun

theorem inOrder_taggedValue {tag : Option Tag} {value : Value} (inOrder : value.InOrder) :
    (taggedValue tag value).InOrder := by
  unfold taggedValue
  split
  · exact Value.inOrder_singleton
  · exact inOrder

/-- The value of a tree is in order. -/
theorem Tree.inOrder_value {tree : Tree} {value : Value} (read : tree.value = .ok value) :
    value.InOrder := by
  cases tree with
  | scalar position tag text isPlain =>
      rw [Tree.value] at read
      split at read
      · next scalar found =>
          cases read
          exact inOrder_taggedValue fun entries same => absurd (same ▸ found) scalarValue?_ne_map
      · cases read
  | sequence position tag items =>
      rw [Tree.value] at read
      obtain ⟨_, _, rfl⟩ := Attempt.map_eq_ok_iff.1 read
      exact inOrder_taggedValue nofun
  | mapping position tag entries =>
      rw [Tree.value] at read
      obtain ⟨_, _, rfl⟩ := Attempt.map_eq_ok_iff.1 read
      exact inOrder_taggedValue Value.inOrder_ofEntries

theorem inOrder_entryValues {entries : List (DocumentStep × Tree × Tree)}
    {values : List (String × Value)} (read : entryValues entries = .ok values) :
    ∀ entry ∈ values, entry.2.InOrder := by
  induction entries generalizing values with
  | nil =>
      rw [entryValues] at read
      cases read
      nofun
  | cons head rest ih =>
      obtain ⟨step, key, tree⟩ := head
      rw [entryValues] at read
      obtain ⟨name, _, read⟩ := Attempt.bind_eq_ok_iff.1 read
      obtain ⟨value, value_eq, read⟩ := Attempt.bind_eq_ok_iff.1 read
      obtain ⟨later, later_eq, read⟩ := Attempt.bind_eq_ok_iff.1 read
      cases read
      exact List.forall_mem_cons.2
        ⟨Tree.inOrder_value (Attempt.mapError_eq_ok_iff.1 value_eq), ih later_eq⟩

theorem inOrder_rootEntries {tree : Tree} {entries : List (String × Value)}
    (read : tree.rootEntries = .ok entries) : InOrder entries := by
  unfold Tree.rootEntries at read
  split at read
  · obtain ⟨_, values, rfl⟩ := Attempt.map_eq_ok_iff.1 read
    exact inOrder_ofList (inOrder_entryValues values)
  · cases read
    exact ⟨List.Pairwise.nil, nofun⟩
  · split at read <;> cases read
  · cases read

/-- The entries of a document are in order. -/
theorem inOrder_read {text : String} {entries : List (String × Value)}
    (given : (read text).entries = .ok entries) : InOrder entries := by
  rw [read] at given
  split at given
  · exact inOrder_rootEntries given
  · cases given

end Yaml

/-! ## TOML -/

namespace Toml

/-- Whatever stands directly inside is in order. -/
def Sound (entries : Entries) : Prop := ∀ entry ∈ entries, entry.2.toValue.InOrder

theorem inOrder_table {origin : TableOrigin} {entries : Entries} :
    (Item.table origin entries).toValue.InOrder := by
  rw [Item.toValue]
  exact Value.inOrder_ofEntries

theorem inOrder_tables {closed : List Value} {entries : Entries} :
    (Item.tables closed entries).toValue.InOrder := by
  rw [Item.toValue]
  nofun

section Sound

variable {entries after : Entries} {key : String} {item : Item}

theorem Sound.append (sound : Sound entries) (inOrder : item.toValue.InOrder) :
    Sound (entries ++ [(key, item)]) := by
  intro entry member
  rcases List.mem_append.1 member with before | last
  · exact sound entry before
  · rw [List.mem_singleton.1 last]
    exact inOrder

theorem Sound.replace (sound : Sound entries) (inOrder : item.toValue.InOrder) :
    Sound (entries.replace key item) := by
  intro entry member
  obtain ⟨former, former_mem, rfl⟩ := List.mem_map.1 member
  split
  · exact inOrder
  · exact sound former former_mem

theorem Sound.addValue {value : Value} (sound : Sound entries) (inOrder : value.InOrder)
    (added : Entries.addValue key value entries = some after) : Sound after := by
  rw [Entries.addValue] at added
  split at added
  · cases added
  · cases added
    exact sound.append (by rwa [Item.toValue])

theorem Sound.addTable (sound : Sound entries) (added : Entries.addTable key entries = some after) :
    Sound after := by
  rw [Entries.addTable] at added
  split at added
  · cases added
    exact sound.append inOrder_table
  · cases added
    exact sound.replace inOrder_table
  · cases added

theorem Sound.addArrayTable (sound : Sound entries)
    (added : Entries.addArrayTable key entries = some after) : Sound after := by
  rw [Entries.addArrayTable] at added
  split at added
  · cases added
    exact sound.append inOrder_tables
  · cases added
    exact sound.replace inOrder_tables
  · cases added

/-- A change further inside leaves tables, which are in order in any case. -/
theorem Sound.editAt {goal origin : TableOrigin} {edit : TableOrigin → Entries → Option Entries}
    {path : List String} (sound : Sound entries)
    (edits : ∀ origin after, edit origin entries = some after → Sound after)
    (edited : Entries.editAt goal edit path origin entries = some after) : Sound after := by
  cases path with
  | nil =>
      rw [Entries.editAt] at edited
      exact edits origin after edited
  | cons key path =>
      rw [Entries.editAt] at edited
      split at edited
      · obtain ⟨_, _, rfl⟩ := Option.map_eq_some_iff.1 edited
        exact sound.append inOrder_table
      · split at edited
        · obtain ⟨_, _, rfl⟩ := Option.map_eq_some_iff.1 edited
          exact sound.replace inOrder_table
        · cases edited
      · obtain ⟨_, _, rfl⟩ := Option.map_eq_some_iff.1 edited
        exact sound.replace inOrder_tables
      · cases edited

theorem Sound.addDotted {path : List String} {value : Value} (sound : Sound entries)
    (inOrder : value.InOrder) (added : Entries.addDotted path value entries = some after) :
    Sound after := by
  unfold Entries.addDotted at added
  split at added
  · cases added
  · exact sound.addValue inOrder added
  · refine sound.editAt (fun origin after edited => ?_) added
    split at edited
    · exact sound.addValue inOrder edited
    · cases edited

end Sound

theorem Sound.editHeader? {entries after : Entries} {path : List String}
    {edit : String → Entries → Option Entries} (sound : Sound entries)
    (edits : ∀ key after, edit key entries = some after → Sound after)
    (edited : Toml.editHeader? edit path entries = some after) : Sound after := by
  rw [Toml.editHeader?] at edited
  split at edited
  · exact sound.editAt (fun _ => edits _) edited
  · cases edited

/-! ### Values -/

theorem integerValue?_ne_map {n : Int} {entries : List (String × Value)} :
    integerValue? n ≠ some (.map entries) := by
  rw [integerValue?]
  split <;> nofun

theorem integer?_ne_map {word : List Char} {entries : List (String × Value)} :
    integer? word ≠ some (.map entries) := by
  intro read
  unfold integer? at read
  simp only [Option.bind_eq_bind] at read
  split at read
  all_goals
    obtain ⟨_, _, read⟩ := Option.bind_eq_some_iff.1 read
    obtain ⟨_, _, read⟩ := Option.bind_eq_some_iff.1 read
    exact integerValue?_ne_map read

theorem bind_ne_map {α : Type} {first : Option α} {rest : α → Option Value}
    {entries : List (String × Value)} (never : ∀ value, rest value ≠ some (.map entries)) :
    first.bind rest ≠ some (.map entries) := by
  intro read
  obtain ⟨value, _, read⟩ := Option.bind_eq_some_iff.1 read
  exact never value read

theorem number?_ne_map {word : List Char} {entries : List (String × Value)} :
    number? word ≠ some (.map entries) := by
  unfold number?
  simp only [Option.bind_eq_bind, Option.pure_def]
  split
  · nofun
  · nofun
  · -- Whatever the form of fraction and exponent, the end is a number or nothing.
    refine bind_ne_map fun whole => ?_
    split
    all_goals
      refine bind_ne_map fun fraction => ?_
      split
      · split
        all_goals
          refine bind_ne_map fun exponent => bind_ne_map fun digits => ?_
          split <;> nofun
      · split
        · refine bind_ne_map fun digits => bind_ne_map fun number => bind_ne_map fun exponent =>
            bind_ne_map fun digits => ?_
          split <;> nofun
        · refine bind_ne_map fun exponent => bind_ne_map fun digits => ?_
          split <;> nofun

theorem wordValue?_ne_map {word : List Char} {entries : List (String × Value)} :
    wordValue? word ≠ some (.map entries) := by
  intro read
  unfold wordValue? at read
  split at read
  · cases read
  · cases read
  · rcases Option.or_eq_some_iff.1 read with read | ⟨_, read⟩
    · exact integer?_ne_map read
    · exact number?_ne_map read

/-- A value in a line is in order. -/
theorem inOrder_readValue? {fuel depth : Nat} {characters rest : List Char} {value : Value}
    (read : readValue? fuel depth characters = some (value, rest)) : value.InOrder := by
  cases fuel with
  | zero => rw [readValue?] at read; cases read
  | succ fuel =>
      unfold readValue? at read
      split at read
      · obtain ⟨_, _, same⟩ := Option.map_eq_some_iff.1 read
        cases same
        nofun
      · split at read
        · cases read
          exact @Value.inOrder_ofEntries []
        · obtain ⟨_, _, same⟩ := Option.map_eq_some_iff.1 read
          cases same
          exact inOrder_table
      · split at read
        · obtain ⟨_, _, same⟩ := Option.map_eq_some_iff.1 read
          cases same
          nofun
        · split at read
          · cases read
            exact Value.inOrder_singleton
          · obtain ⟨_, word, same⟩ := Option.map_eq_some_iff.1 read
            cases same
            exact fun entries same => absurd (same ▸ word) wordValue?_ne_map

/-- **Every line keeps what stands directly inside in order.** -/
theorem sound_readStatements? {fuel : Nat} {path : List String} {root after : Entries}
    {characters : List Char} (sound : Sound root)
    (read : readStatements? fuel path root characters = some after) : Sound after := by
  induction fuel generalizing path root characters with
  | zero => rw [readStatements?] at read; cases read
  | succ fuel ih =>
      unfold readStatements? at read
      simp only [Option.bind_eq_bind, Option.pure_def] at read
      obtain ⟨_, _, read⟩ := Option.bind_eq_some_iff.1 read
      split at read
      · cases read
        exact sound
      · obtain ⟨_, _, read⟩ := Option.bind_eq_some_iff.1 read
        split at read
        · obtain ⟨next, changed, read⟩ := Option.bind_eq_some_iff.1 read
          obtain ⟨_, _, read⟩ := Option.bind_eq_some_iff.1 read
          exact ih (sound.editHeader? (fun _ _ => sound.addArrayTable) changed) read
        · cases read
      · obtain ⟨_, _, read⟩ := Option.bind_eq_some_iff.1 read
        split at read
        · obtain ⟨next, changed, read⟩ := Option.bind_eq_some_iff.1 read
          obtain ⟨_, _, read⟩ := Option.bind_eq_some_iff.1 read
          exact ih (sound.editHeader? (fun _ _ => sound.addTable) changed) read
        · cases read
      · obtain ⟨_, _, read⟩ := Option.bind_eq_some_iff.1 read
        split at read
        · obtain ⟨_, value_eq, read⟩ := Option.bind_eq_some_iff.1 read
          obtain ⟨next, changed, read⟩ := Option.bind_eq_some_iff.1 read
          obtain ⟨_, _, read⟩ := Option.bind_eq_some_iff.1 read
          exact ih (sound.editAt
            (fun _ _ => sound.addDotted (inOrder_readValue? value_eq)) changed) read
        · cases read

theorem inOrder_valuesOf {entries : Entries} (sound : Sound entries) :
    ∀ entry ∈ valuesOf entries, entry.2.InOrder := by
  induction entries with
  | nil => rw [valuesOf]; nofun
  | cons head rest ih =>
      obtain ⟨here, later⟩ := List.forall_mem_cons.1 sound
      rw [valuesOf]
      exact List.forall_mem_cons.2 ⟨here, ih later⟩

/-- The entries of a document are in order. -/
theorem inOrder_read {text : String} {entries : List (String × Value)}
    (given : read text = some entries) : InOrder entries := by
  obtain ⟨root, statements, rfl⟩ := Option.map_eq_some_iff.1 given
  exact inOrder_ofList (inOrder_valuesOf (sound_readStatements? (List.forall_mem_nil _) statements))

end Toml

/-! ## Files -/

/-- **A document in either notation gives entries in order.** -/
theorem ConfigurationDocument.inOrder_entries {source : Source} {text : String} {format : FileFormat}
    {entries : List (String × Value)}
    (given : (ConfigurationDocument.read source text format).entries = .ok entries) :
    InOrder entries := by
  cases format with
  | yaml => exact Yaml.inOrder_read given
  | toml =>
      rw [ConfigurationDocument.read] at given
      split at given
      · next found =>
          cases given
          exact Toml.inOrder_read found
      · cases given

namespace Settings

/-- The entries that a file gives, none without a file; nothing when it cannot be read as a map. -/
def fileEntries? (path? : Option String) (text? : String → Option String) :
    Option (List (String × Value)) :=
  match path? with
  | none => some []
  | some path => (text? path).bind fun text =>
      (ConfigurationDocument.read (.file path (formatOf path)) text (formatOf path)).entries.toOption

theorem inOrder_fileEntries? {path? : Option String} {text? : String → Option String}
    {entries : List (String × Value)} (given : fileEntries? path? text? = some entries) :
    InOrder entries := by
  cases path? with
  | none =>
      cases given
      exact ⟨List.Pairwise.nil, nofun⟩
  | some path =>
      obtain ⟨text, _, found⟩ := Option.bind_eq_some_iff.1 given
      refine @ConfigurationDocument.inOrder_entries (.file path (formatOf path)) text (formatOf path) _ ?_
      cases read : (ConfigurationDocument.read (.file path (formatOf path)) text
          (formatOf path)).entries with
      | error mistake => rw [read] at found; cases found
      | ok given =>
          rw [read] at found
          cases found
          rfl

end Settings

end MemoryFabric

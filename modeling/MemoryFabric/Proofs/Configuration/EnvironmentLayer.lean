import MemoryFabric.Configuration.Environment
import MemoryFabric.Proofs.Configuration.Merging
import Mathlib.Data.List.Induction

/-!
# The layer of an environment

The layer of an environment has at each setting the value of the variable for it, and it has a section exactly
when there is a variable for a setting of that section (**`Environment.shows_layer`**).
-/

namespace MemoryFabric

set_option autoImplicit false

/-! ## Trees that show values -/

/-- A tree for a section shows values for its keys; there is no tree when there are no values. -/
inductive ShowsSection : Option Layered → (String → Option Value) → Prop
  | absent {value? : String → Option Value} (unset : ∀ key, value? key = none) : ShowsSection none value?
  | present {source : Source} {entries : List (String × Layered)} {value? : String → Option Value}
      (ordered : InKeyOrder entries) (set : ∃ key value, value? key = some value)
      (found : ∀ key, Option.Rel Layered.Stands (SortedEntries.get? key entries) (value? key)) :
      ShowsSection (some (.group source entries)) value?

/-- The key of the one setting that is in no section. -/
def plainKey : String := "output_directory"

/-- Entries show values for the settings of sections and for the one besides them. -/
structure Shows (entries : List (String × Layered)) (value? : List String → Option Value) : Prop where
  ordered : InKeyOrder entries
  plain : Option.Rel Layered.Stands (SortedEntries.get? plainKey entries) (value? [plainKey])
  sections : ∀ name, name ≠ plainKey →
    ShowsSection (SortedEntries.get? name entries) fun key => value? [name, key]

/-- A way to a setting: through a section, or to the one besides them. -/
inductive IsSettingPath : List String → Prop
  | plain : IsSettingPath [plainKey]
  | inSection {name key : String} (isSection : name ≠ plainKey) : IsSettingPath [name, key]

/-- Values with one more. -/
def withValue (value? : List String → Option Value) (path : List String) (value : Value) :
    List String → Option Value :=
  fun other => if other = path then some value else value? other

namespace Shows

variable {entries : List (String × Layered)} {value? : List String → Option Value}

theorem nil : Shows [] fun _ => none :=
  ⟨List.Pairwise.nil, .none, fun _ _ => .absent fun _ => rfl⟩

/-- A section with one more value on top. -/
theorem showsSection_join {tree? : Option Layered} {inner? : String → Option Value} {source : Source}
    {key : String} {value : Value} (shows : ShowsSection tree? inner?) :
    ShowsSection (Layered.join? tree? (some (.group source [(key, Layered.ofValue source value)])))
      fun other => if other = key then some value else inner? other := by
  have set : ∃ other result, (if other = key then some value else inner? other) = some result :=
    ⟨key, value, if_pos rfl⟩
  cases shows with
  | absent unset =>
      refine .present SortedEntries.singleton_inKeyOrder set fun other => ?_
      rw [SortedEntries.get?_singleton, unset]
      split
      · exact .some Layered.stands_ofValue
      · exact .none
  | present ordered _ found =>
      rw [Layered.join?, Layered.merge]
      refine .present (Layered.inKeyOrder_mergeEntries ordered SortedEntries.singleton_inKeyOrder) set
        fun other => ?_
      rw [Layered.get?_mergeEntries ordered SortedEntries.singleton_inKeyOrder,
        SortedEntries.get?_singleton]
      split
      · exact Layered.stands_ofValue.join?
      · rw [Layered.join?_none]
        exact found other

/-- A list of one entry on top of others. -/
theorem get?_merge_singleton (ordered : InKeyOrder entries) {name other : String} {tree : Layered} :
    SortedEntries.get? other (Layered.mergeEntries entries [(name, tree)]) =
      Layered.join? (SortedEntries.get? other entries) (if other = name then some tree else none) := by
  rw [Layered.get?_mergeEntries ordered SortedEntries.singleton_inKeyOrder, SortedEntries.get?_singleton]

theorem merge_plain (shows : Shows entries value?) (source : Source) (value : Value) :
    Shows (Layered.mergeEntries entries [(plainKey, Layered.ofValue source value)])
      (withValue value? [plainKey] value) := by
  refine ⟨Layered.inKeyOrder_mergeEntries shows.ordered SortedEntries.singleton_inKeyOrder, ?_,
    fun name isSection => ?_⟩
  · rw [get?_merge_singleton shows.ordered, if_pos rfl, withValue, if_pos rfl]
    exact Layered.stands_ofValue.join?
  · have kept : (fun key => withValue value? [plainKey] value [name, key]) =
        fun key => value? [name, key] := by
      funext key
      rw [withValue, if_neg (by simp)]
    rw [get?_merge_singleton shows.ordered, if_neg isSection, Layered.join?_none, kept]
    exact shows.sections name isSection

theorem merge_inSection (shows : Shows entries value?) {name key : String} (isSection : name ≠ plainKey)
    (source : Source) (value : Value) :
    Shows (Layered.mergeEntries entries
        [(name, .group source [(key, Layered.ofValue source value)])])
      (withValue value? [name, key] value) := by
  refine ⟨Layered.inKeyOrder_mergeEntries shows.ordered SortedEntries.singleton_inKeyOrder, ?_,
    fun other other_isSection => ?_⟩
  · rw [get?_merge_singleton shows.ordered, if_neg isSection.symm, Layered.join?_none, withValue,
      if_neg (by simp)]
    exact shows.plain
  · rw [get?_merge_singleton shows.ordered]
    split
    · next same =>
        subst same
        have inner : (fun inner => withValue value? [other, key] value [other, inner]) =
            fun inner => if inner = key then some value else value? [other, inner] := by
          funext inner
          simp [withValue]
        rw [inner]
        exact showsSection_join (shows.sections other other_isSection)
    · next different =>
        have kept : (fun inner => withValue value? [name, key] value [other, inner]) =
            fun inner => value? [other, inner] := by
          funext inner
          rw [withValue, if_neg (by simp [different])]
        rw [Layered.join?_none, kept]
        exact shows.sections other other_isSection

/-- **A layer with one value on top of entries shows that value and the others.** -/
theorem merge (shows : Shows entries value?) {path : List String} (isPath : IsSettingPath path)
    (source : Source) (value : Value) : ∃ merged,
    (Layered.group source entries).merge (Layered.ofValue source (Environment.nest value path)) =
        .group source merged ∧
      Shows merged (withValue value? path value) := by
  cases isPath with
  | plain =>
      refine ⟨_, ?_, shows.merge_plain source value⟩
      rw [Environment.nest, Environment.nest, Layered.ofValue, Layered.ofEntries, Layered.ofEntries,
        Layered.merge]
  | inSection isSection =>
      refine ⟨_, ?_, shows.merge_inSection isSection source value⟩
      rw [Environment.nest, Environment.nest, Environment.nest, Layered.ofValue, Layered.ofEntries,
        Layered.ofEntries, Layered.ofValue, Layered.ofEntries, Layered.ofEntries, Layered.merge]

end Shows

/-! ## Environments -/

namespace Environment

/-- The value that a list of variables gives to a setting; of several variables for one setting, whose names
differ in case only, the last one counts. -/
def lastValue? (assigned : List (String × String)) (path : List String) : Option Value :=
  (assigned.filterMap fun (name, text) =>
    if path? name = some path then some (value text) else none).getLast?

/-- The value that an environment gives to a setting, its variables in the order of their names. -/
def value? (environment : List (String × String)) : List String → Option Value :=
  lastValue? (SortedMap.ofList environment).toList

/-- Every variable is for a setting. -/
theorem isSettingPath_of_path? {name : String} {path : List String} (mapped : path? name = some path) :
    IsSettingPath path := by
  obtain ⟨entry, found, rfl⟩ := Option.map_eq_some_iff.1 mapped
  have known : ∀ entry ∈ overrides, IsSettingPath entry.2 := by
    have inSection {name key : String} (isSection : name ≠ plainKey := by decide) :
        IsSettingPath [name, key] := .inSection isSection
    simp only [overrides, List.forall_mem_cons]
    exact ⟨inSection, inSection, inSection, inSection, inSection, inSection, inSection, inSection,
      inSection, inSection, inSection, .plain, nofun⟩
  exact known entry (List.mem_of_find?_eq_some found)

theorem lastValue?_concat {assigned : List (String × String)} {name text : String} :
    lastValue? (assigned ++ [(name, text)]) =
      match path? name with
      | some path => withValue (lastValue? assigned) path (value text)
      | none => lastValue? assigned := by
  funext other
  rw [lastValue?, List.filterMap_append]
  cases mapped : path? name with
  | none => simp [mapped, lastValue?]
  | some path =>
      by_cases same : other = path
      · simp [mapped, withValue, same]
      · simp [mapped, withValue, same, Ne.symm same, lastValue?]

/-- **The layer of an environment shows the values of its variables.** -/
theorem shows_layer (environment : List (String × String)) :
    ∃ entries, layer environment = .group .environment entries ∧ Shows entries (value? environment) := by
  rw [layer, value?]
  generalize (SortedMap.ofList environment).toList = assigned
  -- Each variable is put on top of all the earlier ones.
  induction assigned using List.reverseRecOn with
  | nil => exact ⟨[], rfl, Shows.nil⟩
  | append_singleton assigned last ih =>
      obtain ⟨name, text⟩ := last
      obtain ⟨entries, layer_eq, shows⟩ := ih
      simp only [List.foldl_append, layer_eq, lastValue?_concat, List.foldl_cons, List.foldl_nil]
      cases mapped : path? name with
      | none => exact ⟨entries, rfl, shows⟩
      | some path => exact shows.merge (isSettingPath_of_path? mapped) .environment (value text)

/-! ### Which settings have a variable -/

theorem lastValue?_eq_none_iff {assigned : List (String × String)} {path : List String} :
    lastValue? assigned path = none ↔ ∀ name ∈ assigned.map Prod.fst, path? name ≠ some path := by
  rw [lastValue?, List.getLast?_eq_none_iff, List.filterMap_eq_nil_iff, List.forall_mem_map]
  refine forall₂_congr fun entry _ => ?_
  obtain ⟨name, text⟩ := entry
  simp

/-- The order of variables keeps their names. -/
theorem mem_names_iff {environment : List (String × String)} {name : String} :
    name ∈ (SortedMap.ofList environment).toList.map Prod.fst ↔ name ∈ environment.map Prod.fst := by
  have none : (SortedMap.empty : SortedMap String String).contains name = false := rfl
  rw [← SortedMap.keys, SortedMap.mem_keys_iff, SortedMap.ofList, SortedMap.contains_insertAll, none,
    Bool.or_false, decide_eq_true_iff]

/-- An environment has a value for a setting when there is a variable for it. -/
theorem value?_eq_none_iff {environment : List (String × String)} {path : List String} :
    value? environment path = none ↔ ∀ name ∈ environment.map Prod.fst, path? name ≠ some path := by
  rw [value?, lastValue?_eq_none_iff]
  simp only [mem_names_iff]

theorem mem_of_mem_ofList {environment : List (String × String)} {entry : String × String}
    (member : entry ∈ (SortedMap.ofList environment).toList) : entry ∈ environment := by
  rcases SortedMap.mem_of_get?_insertAll (SortedMap.mem_toList_iff.1 member) with listed | before
  · exact listed
  · cases before

/-- A variable is set to a text, and no other spelling of its name to another one. -/
structure Sets (environment : List (String × String)) (name text : String) : Prop where
  set : (name, text) ∈ environment
  only : ∀ entry ∈ environment, path? entry.1 = path? name → entry.2 = text

/-- A variable that is set gives its setting the value of its text. -/
theorem Sets.value?_eq {environment : List (String × String)} {name text : String} {path : List String}
    (sets : Sets environment name text) (mapped : path? name = some path) :
    value? environment path = some (value text) := by
  have given : value? environment path ≠ none := fun unset =>
    value?_eq_none_iff.1 unset name (List.mem_map_of_mem sets.set) mapped
  obtain ⟨given_value, found⟩ := Option.ne_none_iff_exists'.1 given
  rw [found, Option.some.injEq]
  obtain ⟨entry, member, gives⟩ := List.mem_filterMap.1 (List.mem_of_getLast? found)
  dsimp only at gives
  split at gives
  · next same =>
      cases gives
      rw [sets.only entry (mem_of_mem_ofList member) (same.trans mapped.symm)]
  · cases gives

/-- Whether an environment has a variable for a setting of a section. -/
def setsIn (environment : List (String × String)) (name : String) : Bool :=
  environment.any fun entry => (path? entry.1).any fun path => path.head? = some name

theorem setsIn_iff {environment : List (String × String)} {name : String} (isSection : name ≠ plainKey) :
    setsIn environment name = true ↔ ∃ key, value? environment [name, key] ≠ none := by
  simp only [setsIn, List.any_eq_true, ne_eq, value?_eq_none_iff, not_forall, Option.any_eq_true,
    decide_eq_true_eq]
  constructor
  · rintro ⟨entry, entry_mem, path, mapped, first⟩
    cases isSettingPath_of_path? mapped with
    | plain => exact absurd (Option.some.inj first).symm isSection
    | @inSection name key _ =>
        cases first
        exact ⟨key, entry.1, List.mem_map_of_mem entry_mem, fun unset => unset mapped⟩
  · rintro ⟨key, known, member, mapped⟩
    obtain ⟨entry, entry_mem, rfl⟩ := List.mem_map.1 member
    exact ⟨entry, entry_mem, _, not_not.1 mapped, rfl⟩

end Environment

end MemoryFabric

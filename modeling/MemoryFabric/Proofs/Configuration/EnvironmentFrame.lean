import MemoryFabric.Proofs.Configuration.Layering

/-!
# What a variable changes

One more variable in the environment changes its own setting.  The other settings keep their values, with one
exception: a section that the file gives as a sequence is replaced as a whole by the first variable for one of
its settings, and the others fall back to their defaults (`ReplacesSequence`).

Main statement: **`Settings.overridesOnly_iff`**.
-/

namespace MemoryFabric

set_option autoImplicit false

/-- Entries that a function leaves out do not show in what it finds. -/
theorem SortedEntries.filterMap_insert {κ α β : Type} [Ord κ] [Std.LawfulEqOrd κ] {key : κ} {value : α}
    {find : κ × α → Option β} (left : ∀ value, find (key, value) = none) (entries : List (κ × α)) :
    (insert key value entries).filterMap find = entries.filterMap find := by
  induction entries with
  | nil => simp [insert, left]
  | cons head rest ih =>
      obtain ⟨key', value'⟩ := head
      rw [insert]
      split
      · simp [left]
      · next same =>
          obtain rfl : key = key' := Std.LawfulEqCmp.eq_of_compare same
          simp [left]
      · rw [List.filterMap_cons, List.filterMap_cons, ih]

namespace Environment

variable {environment : List (String × String)} {name text : String} {path : List String}

/-- One more variable gives a value to its own setting only. -/
theorem value?_append_of_ne (others : path? name ≠ some path) :
    value? (environment ++ [(name, text)]) path = value? environment path := by
  have more : SortedMap.ofList (environment ++ [(name, text)]) =
      (SortedMap.ofList environment).insert name text := SortedMap.insertAll_append
  rw [value?, value?, lastValue?, lastValue?, more]
  exact congrArg List.getLast? (SortedEntries.filterMap_insert (fun _ => if_neg others) _)

theorem setsIn_append {part : String} :
    setsIn (environment ++ [(name, text)]) part =
      (setsIn environment part || (path? name).any fun path => path.head? = some part) := by
  simp [setsIn]

/-- Without a variable for a section there is none for a setting in it. -/
theorem value?_eq_none_of_setsIn {part : String} (unset : setsIn environment part = false)
    (first : path.head? = some part) : value? environment path = none := by
  refine value?_eq_none_iff.2 fun name member mapped => ?_
  obtain ⟨entry, entry_mem, rfl⟩ := List.mem_map.1 member
  have set : setsIn environment part = true :=
    List.any_eq_true.2 ⟨entry, entry_mem, by rw [mapped, Option.any_some, first, decide_eq_true rfl]⟩
  cases unset.symm.trans set

end Environment

/-- The way to a setting leads through its section, or to the directory for output. -/
theorem Setting.isSettingPath : ∀ setting ∈ all, IsSettingPath setting.path :=
  forall_mem_all_iff.2
    ⟨fun part member _ _ _ => .inSection (Settings.sections_keys part member), .plain⟩

/-- There is one setting that is in no section. -/
theorem IsSettingPath.eq_of_head? {path other : List String} (isPath : IsSettingPath path)
    (other_isPath : IsSettingPath other) (same : path.head? = other.head?)
    (plain : path.head? = some plainKey) : path = other := by
  cases isPath with
  | inSection isSection => exact absurd (Option.some.inj plain) isSection
  | plain =>
      cases other_isPath with
      | plain => rfl
      | inSection isSection => exact absurd (Option.some.inj same).symm isSection

/-- There is at most one value that fits what was given. -/
theorem Gives.unique {ε α : Type} {given? : Option (Except ε α)} {default value other : α}
    (gives : Gives given? default value) (also : Gives given? default other) : value = other := by
  cases given? with
  | none => exact Eq.trans gives (Eq.symm also)
  | some result => exact Except.ok.inj (Eq.trans (Eq.symm gives) also)

namespace Settings

/-- A variable for the setting would be the first one for its section, and the file gives that section as a
sequence. -/
def ReplacesSequence (environment : List (String × String)) (entries : List (String × Value))
    (path : List String) : Prop :=
  ∃ part items, path.head? = some part ∧ SortedEntries.get? part entries = some (.list items) ∧
    Environment.setsIn environment part = false

/-- All settings but the one at the path have the same values. -/
def OverridesOnly (path : List String) (before after : Settings) : Prop :=
  ∀ setting ∈ Setting.all, setting.path ≠ path → setting.get after = setting.get before

section Given

variable {environment : List (String × String)} {entries : List (String × Value)} {name text : String}
  {path : List String} (mapped : Environment.path? name = some path) {setting : Setting}
  (other : setting.path ≠ path)

include mapped other

/-- Outside a replaced sequence one more variable changes nothing of what is given to another setting. -/
theorem given?_append_of_kept
    (kept : ¬ (setting.path.head? = path.head? ∧ ReplacesSequence environment entries path)) :
    given? (environment ++ [(name, text)]) entries setting = given? environment entries setting := by
  have unmapped : Environment.path? name ≠ some setting.path := fun same =>
    other (Option.some.inj (same.symm.trans mapped))
  rw [given?, given?, Environment.value?_append_of_ne unmapped]
  congr 1
  unfold fileValue?
  split
  · rfl
  · next part key path_eq =>
      cases found : SortedEntries.get? part entries with
      | none => rfl
      | some value =>
          cases value with
          | list items =>
              rw [path_eq] at kept
              dsimp only
              rw [Environment.setsIn_append, mapped, Option.any_some]
              cases set : Environment.setsIn environment part with
              | true => rfl
              | false =>
                  have elsewhere : path.head? ≠ some part := fun first =>
                    kept ⟨first.symm, part, items, first, found, set⟩
                  rw [decide_eq_false elsewhere]
                  rfl
          | map | null | flag | unsigned | signed | large | number | text => rfl
  · rfl

/-- In a replaced sequence nothing is given to the other settings. -/
theorem given?_append_of_replaced (member : setting ∈ Setting.all)
    (beside : setting.path.head? = path.head?) (replaced : ReplacesSequence environment entries path) :
    given? (environment ++ [(name, text)]) entries setting = none := by
  obtain ⟨part, items, first, found, unset⟩ := replaced
  have unmapped : Environment.path? name ≠ some setting.path := fun same =>
    other (Option.some.inj (same.symm.trans mapped))
  have set : Environment.setsIn (environment ++ [(name, text)]) part = true := by
    rw [Environment.setsIn_append, mapped, Option.any_some, first, decide_eq_true rfl, Bool.or_true]
  rw [given?, Environment.value?_append_of_ne unmapped,
    Environment.value?_eq_none_of_setsIn unset (beside.trans first), Option.none_or, fileValue?]
  have isPath := Setting.isSettingPath setting member
  have plain := isPath.eq_of_head? (Environment.isSettingPath_of_path? mapped) beside
  split
  · next key path_eq =>
      -- The only setting in no section is the one of the variable.
      rw [path_eq] at plain isPath other
      cases isPath
      exact absurd (plain rfl) other
  · next other_part key path_eq =>
      rw [path_eq] at beside
      cases Option.some.inj (beside.trans first)
      rw [found]
      exact if_pos set
  · rfl

end Given

variable {path? : Option String} {text? : String → Option String} {environment : List (String × String)}
  {name text : String} {path : List String}

/-- **What one more variable changes.**  It overrides its own setting only, unless it is the first one for a
section that the file gives as a sequence and that sequence has given another setting of the section a value
besides its default. -/
theorem overridesOnly_iff (mapped : Environment.path? name = some path) {before after : Settings}
    (loaded : load path? text? environment = .ok before)
    (reloaded : load path? text? (environment ++ [(name, text)]) = .ok after) :
    OverridesOnly path before after ↔
      ∀ entries, fileEntries? path? text? = some entries → ReplacesSequence environment entries path →
        ∀ setting ∈ Setting.all, setting.path ≠ path → setting.path.head? = path.head? →
          setting.get before = setting.get {} := by
  obtain ⟨entries, given, _, gives_before⟩ := load_eq_ok_iff.1 loaded
  obtain ⟨others, same, _, gives_after⟩ := load_eq_ok_iff.1 reloaded
  cases Option.some.inj (given.symm.trans same)
  constructor
  · intro overridesOnly others same replaced setting member other beside
    cases Option.some.inj (given.symm.trans same)
    have after_default := gives_after setting member
    rw [given?_append_of_replaced mapped other member beside replaced] at after_default
    exact (overridesOnly setting member other).symm.trans after_default
  · intro defaults setting member other
    by_cases replaced : setting.path.head? = path.head? ∧ ReplacesSequence environment entries path
    · have after_default := gives_after setting member
      rw [given?_append_of_replaced mapped other member replaced.1 replaced.2] at after_default
      exact Eq.trans after_default
        (defaults entries given replaced.2 setting member other replaced.1).symm
    · have kept := gives_after setting member
      rw [given?_append_of_kept mapped other replaced] at kept
      exact kept.unique (gives_before setting member)

/-- Whether a given value is a map. -/
def isGivenMap : Option Value → Bool
  | some (.map _) => true
  | _ => false

/-- A section that a file gives as a map keeps its other values. -/
theorem overridesOnly_map : ∃ before after,
    load (some "fabric.yaml") (fun _ => some "memory: {total_bytes: 4096}\n") [] = .ok before ∧
      load (some "fabric.yaml") (fun _ => some "memory: {total_bytes: 4096}\n")
        [("NODES", "4")] = .ok after ∧ OverridesOnly ["memory", "nodes"] before after := by
  have checked : (fileEntries? (some "fabric.yaml") fun _ => some "memory: {total_bytes: 4096}\n").any
      (fun entries => isReadable [] entries && isReadable [("NODES", "4")] entries &&
        isGivenMap (SortedEntries.get? "memory" entries)) = true := by decide +kernel
  obtain ⟨entries, given, checked⟩ := (Option.any_eq_true _ _).1 checked
  obtain ⟨readable, isMap⟩ := Bool.and_eq_true_iff.1 checked
  obtain ⟨readable, again⟩ := Bool.and_eq_true_iff.1 readable
  obtain ⟨before, loaded⟩ := exists_load_of_isReadable given readable
  obtain ⟨after, reloaded⟩ := exists_load_of_isReadable given again
  have mapped : Environment.path? "NODES" = some ["memory", "nodes"] := by decide +kernel
  have appended : load (some "fabric.yaml") (fun _ => some "memory: {total_bytes: 4096}\n")
      ([] ++ [("NODES", "4")]) = .ok after := reloaded
  refine ⟨before, after, loaded, reloaded, (overridesOnly_iff mapped loaded appended).2 ?_⟩
  rintro others same ⟨part, items, first, found, _⟩
  cases Option.some.inj (given.symm.trans same)
  cases first
  rw [found] at isMap
  cases isMap

/-- A variable for one setting of a section that a file gives as a sequence: the file's value for another one is
lost. -/
theorem not_overridesOnly_sequence : ∃ before after,
    load (some "fabric.yaml") (fun _ => some "memory: [4096, 2]\n") [] = .ok before ∧
      load (some "fabric.yaml") (fun _ => some "memory: [4096, 2]\n") [("NODES", "4")] = .ok after ∧
        before.memory.totalBytes = 4096 ∧ after.memory.totalBytes = 0x40000000000 ∧
          ¬ OverridesOnly ["memory", "nodes"] before after := by
  have checked : (fileEntries? (some "fabric.yaml") fun _ => some "memory: [4096, 2]\n").any
      (fun entries => isReadable [] entries && isReadable [("NODES", "4")] entries &&
          (isGivenWord 4096 (given? [] entries .totalBytes) &&
            (given? [("NODES", "4")] entries .totalBytes).isNone)) = true := by decide +kernel
  obtain ⟨entries, given, checked⟩ := (Option.any_eq_true _ _).1 checked
  obtain ⟨readable, words⟩ := Bool.and_eq_true_iff.1 checked
  obtain ⟨readable, again⟩ := Bool.and_eq_true_iff.1 readable
  obtain ⟨before, loaded⟩ := exists_load_of_isReadable given readable
  obtain ⟨after, reloaded⟩ := exists_load_of_isReadable given again
  obtain ⟨others, same, _, gives_before⟩ := load_eq_ok_iff.1 loaded
  cases Option.some.inj (given.symm.trans same)
  obtain ⟨others, same, _, gives_after⟩ := load_eq_ok_iff.1 reloaded
  cases Option.some.inj (given.symm.trans same)
  have size_before := gives_before .totalBytes Setting.totalBytes_mem
  have size_after := gives_after .totalBytes Setting.totalBytes_mem
  obtain ⟨given_before, given_after⟩ := Bool.and_eq_true_iff.1 words
  rw [eq_of_isGivenWord given_before] at size_before
  rw [Option.isNone_iff_eq_none.1 given_after] at size_after
  have size_before : before.memory.totalBytes = 4096 := (Except.ok.inj size_before).symm
  have size_after : after.memory.totalBytes = 0x40000000000 := size_after
  refine ⟨before, after, loaded, reloaded, size_before, size_after, fun overridesOnly => ?_⟩
  have same : after.memory.totalBytes = before.memory.totalBytes :=
    overridesOnly .totalBytes Setting.totalBytes_mem (by decide)
  rw [size_before, size_after] at same
  cases same

end Settings

end MemoryFabric

import MemoryFabric.SortedMap
import Mathlib.Data.List.Nodup

/-!
# Keys and look-ups

The keys of a map in key order are distinct, and they are the keys with a value; so the size of a map is
the number of any distinct keys that are all of its keys (`size_eq_length`).  Joining two maps looks a key
up in the second map first (`get?_extend`).
-/

namespace MemoryFabric

set_option autoImplicit false

variable {κ α : Type} [Ord κ]

theorem ne_of_compare_ne [Std.TransOrd κ] {a b : κ} (different : compare a b ≠ .eq) : a ≠ b := by
  rintro rfl
  exact different Std.ReflCmp.compare_self

variable [Std.TransOrd κ] [Std.LawfulEqOrd κ]

namespace SortedEntries

omit [Std.TransOrd κ] in
theorem mem_of_get?_eq_some {key : κ} {value : α} {entries : List (κ × α)}
    (found : get? key entries = some value) : (key, value) ∈ entries := by
  induction entries with
  | nil => cases found
  | cons head rest ih =>
      obtain ⟨other, entry⟩ := head
      simp only [get?] at found
      split at found
      · cases found
      · next same =>
          obtain rfl : key = other := Std.LawfulEqCmp.eq_of_compare same
          cases found
          exact List.mem_cons_self
      · exact List.mem_cons_of_mem _ (ih found)

theorem get?_of_mem {key : κ} {value : α} {entries : List (κ × α)} (ordered : InKeyOrder entries)
    (member : (key, value) ∈ entries) : get? key entries = some value := by
  induction entries with
  | nil => cases member
  | cons head rest ih =>
      obtain ⟨least, ordered⟩ := List.pairwise_cons.1 ordered
      rcases List.mem_cons.1 member with rfl | later
      · simp [get?, Std.ReflCmp.compare_self]
      · have above : compare key head.1 = .gt := Std.OrientedCmp.gt_iff_lt.2 (least _ later)
        simp only [get?, above]
        exact ih ordered later

end SortedEntries

namespace SortedMap

section Keys

variable {map : SortedMap κ α}

/-- The keys in their order. -/
def keys (map : SortedMap κ α) : List κ := map.toList.map Prod.fst

omit [Std.LawfulEqOrd κ] in
theorem keys_nodup : map.keys.Nodup := by
  refine List.pairwise_map.2 (map.ordered.imp fun before => ne_of_compare_ne ?_)
  rw [before]
  nofun

theorem mem_toList_iff {key : κ} {value : α} :
    (key, value) ∈ map.toList ↔ map.get? key = some value :=
  ⟨SortedEntries.get?_of_mem map.ordered, SortedEntries.mem_of_get?_eq_some⟩

theorem mem_keys_iff {key : κ} : key ∈ map.keys ↔ map.contains key = true := by
  simp only [keys, List.mem_map, contains, Option.isSome_iff_exists, ← mem_toList_iff]
  constructor
  · rintro ⟨⟨_, value⟩, member, rfl⟩
    exact ⟨value, member⟩
  · rintro ⟨value, member⟩
    exact ⟨_, member, rfl⟩

/-- Distinct keys that are all keys are as many as the map has entries. -/
theorem size_eq_length {list : List κ} (distinct : list.Nodup)
    (all : ∀ key, key ∈ list ↔ map.contains key = true) : map.size = list.length := by
  have same : map.keys.Perm list :=
    (List.perm_ext_iff_of_nodup keys_nodup distinct).2 fun key => mem_keys_iff.trans (all key).symm
  rw [← same.length_eq, keys, List.length_map]
  rfl

end Keys

/-! ## One or two entries -/

section Few

variable {key later : κ} {value other : α}

omit [Std.TransOrd κ] [Std.LawfulEqOrd κ] in
theorem toList_empty : (∅ : SortedMap κ α).toList = [] := rfl

theorem toList_insert_empty : ((∅ : SortedMap κ α).insert key value).toList = [(key, value)] := rfl

theorem toList_insert_insert (behind : compare later key = .gt) :
    (((∅ : SortedMap κ α).insert key value).insert later other).toList = [(key, value), (later, other)] := by
  have placed : SortedEntries.insert later other [(key, value)] = [(key, value), (later, other)] := by
    simp only [SortedEntries.insert, behind]
  exact placed

end Few

/-! ## Several insertions -/

section Insertions

variable [DecidableEq κ] {entries : List (κ × α)} {map : SortedMap κ α} {key : κ}

theorem contains_insert {other : κ} {value : α} :
    (map.insert key value).contains other = (decide (other = key) || map.contains other) := by
  rw [contains, get?_insert]
  split
  · next same => simp [same]
  · next different => simp [different, contains]

omit [DecidableEq κ] in
theorem insertAll_append {later : List (κ × α)} :
    map.insertAll (entries ++ later) = (map.insertAll entries).insertAll later :=
  List.foldl_append

theorem contains_insertAll :
    (map.insertAll entries).contains key =
      (decide (key ∈ entries.map Prod.fst) || map.contains key) := by
  induction entries generalizing map with
  | nil => simp [insertAll]
  | cons head rest ih =>
      have step : map.insertAll (head :: rest) = (map.insert head.1 head.2).insertAll rest := rfl
      rw [step, ih, contains_insert, ← Bool.or_assoc, Bool.or_comm (decide (key ∈ rest.map Prod.fst)),
        ← Bool.decide_or, List.map_cons, decide_eq_decide.2 List.mem_cons]

theorem get?_insertAll_of_not_mem (absent : key ∉ entries.map Prod.fst) :
    (map.insertAll entries).get? key = map.get? key := by
  induction entries generalizing map with
  | nil => rfl
  | cons head rest ih =>
      obtain ⟨different, absent⟩ := List.ne_and_not_mem_of_not_mem_cons absent
      have step : map.insertAll (head :: rest) = (map.insert head.1 head.2).insertAll rest := rfl
      rw [step, ih absent, get?_insert, if_neg different]

/-- Of entries with distinct keys every one is found. -/
theorem get?_insertAll_of_mem {value : α} (distinct : (entries.map Prod.fst).Nodup)
    (member : (key, value) ∈ entries) : (map.insertAll entries).get? key = some value := by
  induction entries generalizing map with
  | nil => cases member
  | cons head rest ih =>
      obtain ⟨absent, distinct⟩ := List.nodup_cons.1 distinct
      have step : map.insertAll (head :: rest) = (map.insert head.1 head.2).insertAll rest := rfl
      rw [step]
      rcases List.mem_cons.1 member with rfl | later
      · rw [get?_insertAll_of_not_mem absent, get?_insert, if_pos rfl]
      · exact ih distinct later

/-- What is found after insertions has been inserted or was there before. -/
theorem mem_of_get?_insertAll {value : α} (found : (map.insertAll entries).get? key = some value) :
    (key, value) ∈ entries ∨ map.get? key = some value := by
  induction entries generalizing map with
  | nil => exact .inr found
  | cons head rest ih =>
      have step : map.insertAll (head :: rest) = (map.insert head.1 head.2).insertAll rest := rfl
      rw [step] at found
      rcases ih found with later | before
      · exact .inl (List.mem_cons_of_mem head later)
      · rw [get?_insert] at before
        split at before
        · next same =>
            subst same
            cases before
            exact .inl List.mem_cons_self
        · exact .inr before

/-- **A joined map has the second map's values, and the first map's where the second has none.** -/
theorem get?_extend (map other : SortedMap κ α) (key : κ) :
    (map.extend other).get? key = (other.get? key).or (map.get? key) := by
  cases found : other.get? key with
  | some value => exact get?_insertAll_of_mem keys_nodup (mem_toList_iff.2 found)
  | none =>
      have absent : key ∉ other.keys := by
        rw [mem_keys_iff, contains, found]
        nofun
      exact get?_insertAll_of_not_mem absent

end Insertions

end SortedMap

end MemoryFabric

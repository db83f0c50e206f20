import MemoryFabric.Configuration.Layer
import MemoryFabric.Proofs.SortedMap

/-!
# Look-ups in merged layers

Merging two lists of entries joins what they have at each key (**`Layered.get?_mergeEntries`**), so look-ups in
a merged tree are told from look-ups in its layers.  A scalar on top of anything is the scalar, and a map on top
of a map is a map again; that is all a setting can tell, because none takes a map (`Layered.Stands`).
-/

namespace MemoryFabric

set_option autoImplicit false

namespace SortedEntries

variable {α : Type}

section Cons

variable {key front : String} {value : α} {rest : List (String × α)}

theorem get?_cons_of_lt (before : compare key front = .lt) : get? key ((front, value) :: rest) = none := by
  simp only [get?, before]

theorem get?_cons_of_eq (same : compare key front = .eq) :
    get? key ((front, value) :: rest) = some value := by
  simp only [get?, same]

theorem get?_cons_of_gt (behind : compare key front = .gt) :
    get? key ((front, value) :: rest) = get? key rest := by
  simp only [get?, behind]

end Cons

theorem get?_singleton {key other : String} {value : α} :
    get? other [(key, value)] = if other = key then some value else none := by
  cases place : compare other key with
  | lt => rw [get?_cons_of_lt place, if_neg (ne_of_compare_ne (by rw [place]; nofun))]
  | eq => rw [get?_cons_of_eq place, if_pos (Std.LawfulEqCmp.eq_of_compare place)]
  | gt => rw [get?_cons_of_gt place, if_neg (ne_of_compare_ne (by rw [place]; nofun)), get?]

theorem singleton_inKeyOrder {key : String} {value : α} : InKeyOrder [(key, value)] :=
  List.pairwise_singleton _ _

end SortedEntries

namespace Layered

/-! ## Values as layers -/

mutual

theorem value_ofValue (source : Source) : (value : Value) → (ofValue source value).value = value
  | .map entries => by rw [ofValue, Layered.value, values_ofEntries]
  | .null | .flag _ | .unsigned _ | .signed _ | .large _ | .number _ | .text _ | .list _ => by
      rw [ofValue, Layered.value]

theorem values_ofEntries (source : Source) :
    (entries : List (String × Value)) → values (ofEntries source entries) = entries
  | [] => rfl
  | (key, value) :: rest => by
      rw [ofEntries, values, value_ofValue source value, values_ofEntries source rest]

end

theorem keys_ofEntries {source : Source} {entries : List (String × Value)} :
    (ofEntries source entries).map Prod.fst = entries.map Prod.fst := by
  induction entries with
  | nil => rfl
  | cons head rest ih => rw [ofEntries, List.map_cons, List.map_cons, ih]

theorem inKeyOrder_ofEntries {source : Source} {entries : List (String × Value)}
    (ordered : InKeyOrder entries) : InKeyOrder (ofEntries source entries) := by
  have keys : (entries.map Prod.fst).Pairwise fun a b => compare a b = .lt := List.pairwise_map.2 ordered
  rw [← @keys_ofEntries source] at keys
  exact List.pairwise_map.1 keys

theorem get?_ofEntries {source : Source} {entries : List (String × Value)} {key : String} :
    SortedEntries.get? key (ofEntries source entries) =
      (SortedEntries.get? key entries).map (ofValue source) := by
  induction entries with
  | nil => rfl
  | cons head rest ih =>
      rw [ofEntries]
      simp only [SortedEntries.get?]
      split
      · rfl
      · rfl
      · exact ih

/-! ## Merged entries -/

/-- What is at a key when one layer lies on top of another. -/
def join? : Option Layered → Option Layered → Option Layered
  | some below, some above => some (below.merge above)
  | some below, none => some below
  | none, above? => above?

theorem join?_none {below? : Option Layered} : join? below? none = below? := by
  cases below? <;> rfl

section Entries

variable {key key' : String} {entry entry' : Layered} {rest rest' : List (String × Layered)}

theorem mergeEntries_nil {later : List (String × Layered)} : mergeEntries [] later = later := by
  rw [mergeEntries]

theorem mergeEntries_cons_nil :
    mergeEntries ((key, entry) :: rest) [] = (key, entry) :: rest := by
  rw [mergeEntries]
  simp

theorem mergeEntries_nil_right {entries : List (String × Layered)} : mergeEntries entries [] = entries := by
  cases entries with
  | nil => exact mergeEntries_nil
  | cons head rest => exact mergeEntries_cons_nil

theorem mergeEntries_of_lt (before : compare key key' = .lt) :
    mergeEntries ((key, entry) :: rest) ((key', entry') :: rest') =
      (key, entry) :: mergeEntries rest ((key', entry') :: rest') := by
  rw [mergeEntries, before]

theorem mergeEntries_of_eq (same : compare key key' = .eq) :
    mergeEntries ((key, entry) :: rest) ((key', entry') :: rest') =
      (key, entry.merge entry') :: mergeEntries rest rest' := by
  rw [mergeEntries, same]

theorem mergeEntries_of_gt (behind : compare key key' = .gt) :
    mergeEntries ((key, entry) :: rest) ((key', entry') :: rest') =
      (key', entry') :: mergeEntries ((key, entry) :: rest) rest' := by
  rw [mergeEntries, behind]

end Entries

/-- A key in front of both lists is in front of the merged one. -/
theorem lt_of_mem_mergeEntries {first : String} {entries later : List (String × Layered)}
    (before : ∀ entry ∈ entries, compare first entry.1 = .lt)
    (before_later : ∀ entry ∈ later, compare first entry.1 = .lt) :
    ∀ entry ∈ mergeEntries entries later, compare first entry.1 = .lt := by
  -- The recursion takes from either list, so the induction is on both.
  induction entries generalizing later with
  | nil => rwa [mergeEntries_nil]
  | cons head rest ih =>
      induction later with
      | nil => rwa [mergeEntries_cons_nil]
      | cons head' rest' ih' =>
          obtain ⟨here, rest_before⟩ := List.forall_mem_cons.1 before
          obtain ⟨here', rest_before'⟩ := List.forall_mem_cons.1 before_later
          cases order : compare head.1 head'.1 with
          | lt =>
              rw [mergeEntries_of_lt order]
              exact List.forall_mem_cons.2 ⟨here, ih rest_before before_later⟩
          | eq =>
              rw [mergeEntries_of_eq order]
              exact List.forall_mem_cons.2 ⟨here, ih rest_before rest_before'⟩
          | gt =>
              rw [mergeEntries_of_gt order]
              exact List.forall_mem_cons.2 ⟨here', ih' rest_before'⟩

theorem inKeyOrder_mergeEntries {entries later : List (String × Layered)} (ordered : InKeyOrder entries)
    (later_ordered : InKeyOrder later) : InKeyOrder (mergeEntries entries later) := by
  induction entries generalizing later with
  | nil => rwa [mergeEntries_nil]
  | cons head rest ih =>
      induction later with
      | nil => rwa [mergeEntries_cons_nil]
      | cons head' rest' ih' =>
          obtain ⟨least, rest_ordered⟩ := List.pairwise_cons.1 ordered
          obtain ⟨least', rest_ordered'⟩ := List.pairwise_cons.1 later_ordered
          cases order : compare head.1 head'.1 with
          | lt =>
              rw [mergeEntries_of_lt order]
              refine List.pairwise_cons.2 ⟨lt_of_mem_mergeEntries least ?_, ih rest_ordered later_ordered⟩
              exact List.forall_mem_cons.2
                ⟨order, fun entry member => Std.TransCmp.lt_trans order (least' entry member)⟩
          | eq =>
              rw [mergeEntries_of_eq order]
              obtain same : head.1 = head'.1 := Std.LawfulEqCmp.eq_of_compare order
              refine List.pairwise_cons.2
                ⟨lt_of_mem_mergeEntries least ?_, ih rest_ordered rest_ordered'⟩
              rwa [same]
          | gt =>
              have before := Std.OrientedCmp.gt_iff_lt.1 order
              rw [mergeEntries_of_gt order]
              refine List.pairwise_cons.2 ⟨lt_of_mem_mergeEntries ?_ least', ih' rest_ordered'⟩
              exact List.forall_mem_cons.2
                ⟨before, fun entry member => Std.TransCmp.lt_trans before (least entry member)⟩

/-- **Merged entries have at each key what is there in both lists, joined.** -/
theorem get?_mergeEntries {entries later : List (String × Layered)} (ordered : InKeyOrder entries)
    (later_ordered : InKeyOrder later) {key : String} :
    SortedEntries.get? key (mergeEntries entries later) =
      join? (SortedEntries.get? key entries) (SortedEntries.get? key later) := by
  induction entries generalizing later with
  | nil => rw [mergeEntries_nil]; rfl
  | cons head rest ih =>
      obtain ⟨front, entry⟩ := head
      induction later with
      | nil =>
          rw [mergeEntries_cons_nil]
          exact join?_none.symm
      | cons head' rest' ih' =>
          obtain ⟨front', entry'⟩ := head'
          obtain ⟨least, rest_ordered⟩ := List.pairwise_cons.1 ordered
          obtain ⟨least', rest_ordered'⟩ := List.pairwise_cons.1 later_ordered
          cases order : compare front front' with
          | lt =>
              rw [mergeEntries_of_lt order]
              cases place : compare key front with
              | lt =>
                  rw [SortedEntries.get?_cons_of_lt place, SortedEntries.get?_cons_of_lt place,
                    SortedEntries.get?_cons_of_lt (Std.TransCmp.lt_trans place order), join?]
              | eq =>
                  obtain same : key = front := Std.LawfulEqCmp.eq_of_compare place
                  rw [SortedEntries.get?_cons_of_eq place, SortedEntries.get?_cons_of_eq place,
                    SortedEntries.get?_cons_of_lt (same ▸ order), join?]
              | gt =>
                  rw [SortedEntries.get?_cons_of_gt place, SortedEntries.get?_cons_of_gt place,
                    ih rest_ordered later_ordered]
          | eq =>
              obtain same : front = front' := Std.LawfulEqCmp.eq_of_compare order
              rw [mergeEntries_of_eq order]
              cases place : compare key front with
              | lt =>
                  rw [SortedEntries.get?_cons_of_lt place, SortedEntries.get?_cons_of_lt place,
                    SortedEntries.get?_cons_of_lt (same ▸ place), join?]
              | eq =>
                  rw [SortedEntries.get?_cons_of_eq place, SortedEntries.get?_cons_of_eq place,
                    SortedEntries.get?_cons_of_eq (same ▸ place), join?]
              | gt =>
                  rw [SortedEntries.get?_cons_of_gt place, SortedEntries.get?_cons_of_gt place,
                    SortedEntries.get?_cons_of_gt (same ▸ place), ih rest_ordered rest_ordered']
          | gt =>
              have before := Std.OrientedCmp.gt_iff_lt.1 order
              rw [mergeEntries_of_gt order]
              cases place : compare key front' with
              | lt =>
                  rw [SortedEntries.get?_cons_of_lt place, SortedEntries.get?_cons_of_lt place,
                    SortedEntries.get?_cons_of_lt (Std.TransCmp.lt_trans place before), join?]
              | eq =>
                  obtain same : key = front' := Std.LawfulEqCmp.eq_of_compare place
                  rw [SortedEntries.get?_cons_of_eq place, SortedEntries.get?_cons_of_eq place,
                    SortedEntries.get?_cons_of_lt (same ▸ before), join?]
              | gt =>
                  rw [SortedEntries.get?_cons_of_gt place, SortedEntries.get?_cons_of_gt place,
                    ih' rest_ordered']

end Layered

/-! ## What a setting can tell -/

/-- Values that a setting cannot tell apart: they are equal or both maps. -/
def Value.Alike (value other : Value) : Prop :=
  value = other ∨ (∃ entries, value = .map entries) ∧ ∃ entries, other = .map entries

namespace Layered

/-- A tree has a value, as far as a setting can tell. -/
def Stands (tree : Layered) (value : Value) : Prop := tree.value.Alike value

theorem stands_ofValue {source : Source} {value : Value} : (ofValue source value).Stands value :=
  .inl (value_ofValue source value)

/-- The layer on top decides. -/
theorem Stands.merge {below above : Layered} {value : Value} (stands : above.Stands value) :
    (below.merge above).Stands value := by
  cases below with
  | leaf source scalar => rwa [Layered.merge]
  | group source entries =>
      cases above with
      | leaf source scalar => rwa [Layered.merge]
      | group source later =>
          rw [Layered.merge]
          refine .inr ⟨⟨_, by rw [Layered.value]⟩, ?_⟩
          rcases stands with same | ⟨_, isMap⟩
          · rw [Layered.value] at same
            exact ⟨_, same.symm⟩
          · exact isMap

theorem Stands.join? {below? : Option Layered} {above : Layered} {value : Value}
    (stands : above.Stands value) : Option.Rel Stands (join? below? (some above)) (some value) := by
  cases below? with
  | none => exact .some stands
  | some below => exact .some stands.merge

end Layered

/-- No map is a value of the setting. -/
def Codec.RejectsMaps {α : Type} (codec : Codec α) : Prop :=
  ∀ entries value, codec.read (.map entries) ≠ .ok value

theorem Codec.RejectsMaps.read_iff {α : Type} {codec : Codec α} (rejects : codec.RejectsMaps)
    {value other : Value} (alike : value.Alike other) {result : α} :
    codec.read value = .ok result ↔ codec.read other = .ok result := by
  rcases alike with same | ⟨⟨entries, rfl⟩, ⟨others, rfl⟩⟩
  · rw [same]
  · exact ⟨fun read => absurd read (rejects _ _), fun read => absurd read (rejects _ _)⟩

end MemoryFabric

/-!
# Maps in key order

A finite map kept as the list of its entries in strictly increasing key order.  The order is part of
the type, so a map has one representation and equal maps are equal values.  Main statements:
**`get?_insert`**, which says what an insertion does to every look-up, and **`ext_get?`**, which says that
look-ups determine the map.
-/

namespace MemoryFabric

set_option autoImplicit false

variable {κ α β : Type} [Ord κ]

/-- Entries in strictly increasing key order. -/
def InKeyOrder (entries : List (κ × α)) : Prop :=
  entries.Pairwise fun a b => compare a.1 b.1 = .lt

namespace SortedEntries

/-- Put an entry at its place, instead of an entry of the same key. -/
def insert (key : κ) (value : α) : List (κ × α) → List (κ × α)
  | [] => [(key, value)]
  | (key', value') :: rest =>
    match compare key key' with
    | .lt => (key, value) :: (key', value') :: rest
    | .eq => (key, value) :: rest
    | .gt => (key', value') :: insert key value rest

/-- The value at a key. -/
def get? (key : κ) : List (κ × α) → Option α
  | [] => none
  | (key', value) :: rest =>
    match compare key key' with
    | .lt => none
    | .eq => some value
    | .gt => get? key rest

theorem compare_of_mem_insert {key : κ} {value : α} {entries : List (κ × α)} {a : κ × α}
    (h : a ∈ insert key value entries) : a = (key, value) ∨ a ∈ entries := by
  induction entries with
  | nil => simpa [insert] using h
  | cons head rest ih =>
    obtain ⟨key', value'⟩ := head
    simp only [insert] at h
    split at h
    · simpa using h
    · simp only [List.mem_cons] at h ⊢
      exact h.imp_right Or.inr
    · simp only [List.mem_cons] at h ⊢
      rcases h with h | h
      · exact Or.inr (Or.inl h)
      · exact (ih h).imp_right Or.inr

theorem insert_inKeyOrder [Std.TransOrd κ] [Std.LawfulEqOrd κ] (key : κ) (value : α)
    {entries : List (κ × α)} (h : InKeyOrder entries) : InKeyOrder (insert key value entries) := by
  induction entries with
  | nil => simp [insert, InKeyOrder]
  | cons head rest ih =>
    obtain ⟨key', value'⟩ := head
    have ordered := List.pairwise_cons.1 h
    simp only [insert]
    split
    · next below =>
      refine List.pairwise_cons.2 ⟨fun a ha => ?_, h⟩
      rcases List.mem_cons.1 ha with rfl | ha
      · exact below
      · exact Std.TransCmp.lt_trans below (ordered.1 a ha)
    · next same =>
      obtain rfl : key = key' := Std.LawfulEqCmp.eq_of_compare same
      exact List.pairwise_cons.2 ⟨ordered.1, ordered.2⟩
    · next above =>
      refine List.pairwise_cons.2 ⟨fun a ha => ?_, ih ordered.2⟩
      rcases compare_of_mem_insert ha with rfl | ha
      · exact Std.OrientedCmp.gt_iff_lt.1 above
      · exact ordered.1 a ha

theorem get?_insert_self [Std.TransOrd κ] (key : κ) (value : α) (entries : List (κ × α)) :
    get? key (insert key value entries) = some value := by
  induction entries with
  | nil => simp [insert, get?, Std.ReflCmp.compare_self]
  | cons head rest ih =>
    obtain ⟨key', value'⟩ := head
    simp only [insert]
    split
    · simp [get?, Std.ReflCmp.compare_self]
    · simp [get?, Std.ReflCmp.compare_self]
    · next above => simp [get?, above, ih]

theorem get?_insert_of_ne [Std.TransOrd κ] [Std.LawfulEqOrd κ] {key other : κ} (value : α)
    (h : other ≠ key) (entries : List (κ × α)) :
    get? other (insert key value entries) = get? other entries := by
  have different : compare other key ≠ .eq := fun same => h (Std.LawfulEqCmp.eq_of_compare same)
  induction entries with
  | nil =>
    simp only [insert, get?]
    cases hc : compare other key <;> simp_all
  | cons head rest ih =>
    obtain ⟨key', value'⟩ := head
    simp only [insert]
    split
    · next below =>
      simp only [get?]
      cases hc : compare other key with
      | lt => simp [Std.TransCmp.lt_trans hc below]
      | eq => exact absurd hc different
      | gt => rfl
    · next same =>
      obtain rfl : key = key' := Std.LawfulEqCmp.eq_of_compare same
      simp only [get?]
      cases hc : compare other key <;> simp_all
    · next above =>
      simp only [get?]
      cases hc : compare other key' <;> simp_all

theorem get?_eq_none_of_forall_lt [Std.TransOrd κ] {key : κ} {entries : List (κ × α)}
    (h : ∀ a ∈ entries, compare key a.1 = .lt) : get? key entries = none := by
  cases entries with
  | nil => rfl
  | cons head rest => simp [get?, h head (by simp)]

theorem eq_of_get?_eq [Std.TransOrd κ] [Std.LawfulEqOrd κ] {xs ys : List (κ × α)}
    (hx : InKeyOrder xs) (hy : InKeyOrder ys) (h : ∀ key, get? key xs = get? key ys) : xs = ys := by
  induction xs generalizing ys with
  | nil =>
    cases ys with
    | nil => rfl
    | cons head rest => simpa [get?, Std.ReflCmp.compare_self] using h head.1
  | cons x xs ih =>
    cases ys with
    | nil => simpa [get?, Std.ReflCmp.compare_self] using h x.1
    | cons y ys =>
      have ordered_x := List.pairwise_cons.1 hx
      have ordered_y := List.pairwise_cons.1 hy
      have at_x := h x.1
      have at_y := h y.1
      simp only [get?, Std.ReflCmp.compare_self] at at_x at_y
      have same : compare x.1 y.1 = .eq := by
        cases hc : compare x.1 y.1 with
        | eq => rfl
        | lt => simp [hc] at at_x
        | gt => simp [Std.OrientedCmp.gt_iff_lt.1 hc] at at_y
      have keys : x.1 = y.1 := Std.LawfulEqCmp.eq_of_compare same
      have values : x.2 = y.2 := by simpa [same] using at_x
      have heads : x = y := Prod.ext keys values
      subst heads
      congr 1
      refine ih ordered_x.2 ordered_y.2 fun key => ?_
      have at_key := h key
      simp only [get?] at at_key
      cases hc : compare key x.1 with
      | gt => simpa [hc] using at_key
      | eq =>
        obtain rfl : key = x.1 := Std.LawfulEqCmp.eq_of_compare hc
        rw [get?_eq_none_of_forall_lt ordered_x.1, get?_eq_none_of_forall_lt ordered_y.1]
      | lt =>
        rw [get?_eq_none_of_forall_lt fun a ha => Std.TransCmp.lt_trans hc (ordered_x.1 a ha),
          get?_eq_none_of_forall_lt fun a ha => Std.TransCmp.lt_trans hc (ordered_y.1 a ha)]

end SortedEntries

/-! ## The map -/

/-- A finite map from keys to values, in key order. -/
@[ext]
structure SortedMap (κ α : Type) [Ord κ] where
  entries : List (κ × α)
  ordered : InKeyOrder entries

namespace SortedMap

instance [DecidableEq κ] [DecidableEq α] : DecidableEq (SortedMap κ α) := fun x y =>
  decidable_of_iff (x.entries = y.entries) SortedMap.ext_iff.symm

/-- The map without entries. -/
def empty : SortedMap κ α := ⟨[], List.Pairwise.nil⟩

instance : Inhabited (SortedMap κ α) := ⟨empty⟩

instance : EmptyCollection (SortedMap κ α) := ⟨empty⟩

/-- The entries in key order. -/
def toList (map : SortedMap κ α) : List (κ × α) := map.entries

/-- The number of entries. -/
def size (map : SortedMap κ α) : Nat := map.entries.length

/-- The value at a key. -/
def get? (map : SortedMap κ α) (key : κ) : Option α := SortedEntries.get? key map.entries

/-- Whether there is an entry at a key. -/
def contains (map : SortedMap κ α) (key : κ) : Bool := (map.get? key).isSome

@[simp]
theorem get?_empty (key : κ) : (empty : SortedMap κ α).get? key = none := rfl

variable [Std.TransOrd κ] [Std.LawfulEqOrd κ]

/-- The map with a value at a key, instead of the value there before. -/
def insert (map : SortedMap κ α) (key : κ) (value : α) : SortedMap κ α :=
  ⟨SortedEntries.insert key value map.entries, SortedEntries.insert_inKeyOrder key value map.ordered⟩

/-- Insert entries from the first to the last. -/
def insertAll (map : SortedMap κ α) (entries : List (κ × α)) : SortedMap κ α :=
  entries.foldl (fun map entry => map.insert entry.1 entry.2) map

/-- The map of a list of entries; of two entries at one key the later one counts. -/
def ofList (entries : List (κ × α)) : SortedMap κ α := empty.insertAll entries

/-- All entries of both maps; at a shared key the second map's value. -/
def extend (map other : SortedMap κ α) : SortedMap κ α := map.insertAll other.entries

/-- **An insertion changes the look-up at its own key only.** -/
theorem get?_insert [DecidableEq κ] (map : SortedMap κ α) (key other : κ) (value : α) :
    (map.insert key value).get? other = if other = key then some value else map.get? other := by
  split
  · next same =>
    subst same
    exact SortedEntries.get?_insert_self other value map.entries
  · next different => exact SortedEntries.get?_insert_of_ne value different map.entries

/-- **Two maps with the same look-ups are equal.** -/
theorem ext_get? {map other : SortedMap κ α} (h : ∀ key, map.get? key = other.get? key) :
    map = other :=
  SortedMap.ext (SortedEntries.eq_of_get?_eq map.ordered other.ordered h)

end SortedMap

end MemoryFabric

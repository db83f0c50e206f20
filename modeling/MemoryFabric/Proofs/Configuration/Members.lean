import MemoryFabric.Configuration.Section
import MemoryFabric.Proofs.Attempt
import MemoryFabric.Proofs.SortedMap

/-!
# Members of a structure of settings

A structure is read by setting its members one after another, each at most once and in any order.  When the
members are independent and there are no others, the values that were read for them determine the result
(**`Assignment.applyAll_eq_ok_iff`**).  The entries of a map set the members of their keys, each as its reader
reads it (**`Reader.readAll_eq_ok_iff`**).
-/

namespace MemoryFabric

set_option autoImplicit false

/-- A value is what was given, or else the default. -/
def Gives {ε α : Type} (given? : Option (Except ε α)) (default value : α) : Prop :=
  match given? with
  | some result => result = .ok value
  | none => value = default

/-- Of two ways to read what is given only the accepted values matter. -/
theorem gives_map_congr {ε δ α ι : Type} {given? : Option ι} {read : ι → Except ε α}
    {read' : ι → Except δ α} {default value : α}
    (same : ∀ given, read given = .ok value ↔ read' given = .ok value) :
    Gives (given?.map read) default value ↔ Gives (given?.map read') default value := by
  cases given? with
  | none => exact Iff.rfl
  | some given => exact same given

variable {σ : Type}

/-- Members that can be set independently and that there are no others of. -/
structure MakeUp (members : List (Member σ)) : Prop where
  distinct : (members.map Member.key).Nodup
  get_set : ∀ member ∈ members, ∀ whole value, member.get (member.set whole value) = value
  frame : ∀ member ∈ members, ∀ other ∈ members, other.key ≠ member.key →
    ∀ whole value, other.get (member.set whole value) = other.get whole
  ext : ∀ whole after : σ, (∀ member ∈ members, member.get whole = member.get after) → whole = after

namespace MakeUp

variable {members : List (Member σ)}

/-- A member is known by its key. -/
theorem eq_of_key (makeUp : MakeUp members) {member other : Member σ} (member_mem : member ∈ members)
    (other_mem : other ∈ members) (same : member.key = other.key) : member = other :=
  List.inj_on_of_nodup_map makeUp.distinct member_mem other_mem same

end MakeUp

/-! ## Assignments -/

/-- A member with what has been read for it. -/
structure Assignment (σ : Type) where
  member : Member σ
  result : Except SettingError member.Kind

namespace Assignment

/-- Set members in the order of the assignments, until one cannot be read. -/
def applyAll (whole : σ) : List (Assignment σ) → Except SettingError σ
  | [] => .ok whole
  | assignment :: rest => do
    applyAll (← assignment.result.map (assignment.member.set whole)) rest

/-- Assignments apply when everything could be read. -/
theorem exists_applyAll_iff {whole : σ} {assignments : List (Assignment σ)} :
    (∃ after, applyAll whole assignments = .ok after) ↔
      ∀ assignment ∈ assignments, ∃ value, assignment.result = .ok value := by
  induction assignments generalizing whole with
  | nil => simp [applyAll]
  | cons assignment rest ih =>
      rw [List.forall_mem_cons]
      cases read : assignment.result with
      | error cause => simp [applyAll, read, Except.map, bind, Except.bind]
      | ok value =>
          have applied : applyAll whole (assignment :: rest) =
              applyAll (assignment.member.set whole value) rest := by
            rw [applyAll, read]
            rfl
          rw [applied, ih]
          exact (and_iff_right ⟨value, rfl⟩).symm

/-- **What was read for the members determines the whole.** -/
theorem applyAll_eq_ok_iff {members : List (Member σ)} (makeUp : MakeUp members)
    {assignments : List (Assignment σ)} (known : ∀ assignment ∈ assignments, assignment.member ∈ members)
    (once : (assignments.map fun assignment => assignment.member.key).Nodup) {whole after : σ} :
    applyAll whole assignments = .ok after ↔
      (∀ assignment ∈ assignments, assignment.result = .ok (assignment.member.get after)) ∧
        ∀ member ∈ members, member.key ∉ assignments.map (fun assignment => assignment.member.key) →
          member.get after = member.get whole := by
  induction assignments generalizing whole with
  | nil =>
      constructor
      · rintro ⟨⟩
        exact ⟨nofun, fun _ _ _ => rfl⟩
      · rintro ⟨_, same⟩
        rw [applyAll, makeUp.ext whole after fun member member_mem =>
          (same member member_mem List.not_mem_nil).symm]
  | cons assignment rest ih =>
      obtain ⟨here, later⟩ := List.forall_mem_cons.1 known
      obtain ⟨fresh, once⟩ := List.nodup_cons.1 once
      cases read : assignment.result with
      | error cause =>
          have stopped : applyAll whole (assignment :: rest) = .error cause := by
            rw [applyAll, read]
            rfl
          rw [stopped]
          constructor
          · nofun
          · rintro ⟨all, _⟩
            cases read.symm.trans (all assignment List.mem_cons_self)
      | ok value =>
          have applied : applyAll whole (assignment :: rest) =
              applyAll (assignment.member.set whole value) rest := by
            rw [applyAll, read]
            rfl
          rw [applied, ih later once, List.forall_mem_cons, and_assoc, read]
          constructor
          · rintro ⟨all, kept⟩
            have set : value = assignment.member.get after := by
              rw [kept _ here fresh, makeUp.get_set _ here]
            refine ⟨congrArg Except.ok set, all, fun member member_mem absent => ?_⟩
            obtain ⟨other, absent⟩ := not_or.1 (List.mem_cons.not.1 absent)
            rw [kept member member_mem absent, makeUp.frame _ here _ member_mem other]
          · rintro ⟨set, all, kept⟩
            refine ⟨all, fun member member_mem absent => ?_⟩
            by_cases same : member.key = assignment.member.key
            · obtain rfl := makeUp.eq_of_key member_mem here same
              rw [makeUp.get_set _ here, Except.ok.inj set]
            · rw [makeUp.frame _ here _ member_mem same]
              exact kept member member_mem (List.mem_cons.not.2 (not_or.2 ⟨same, absent⟩))

end Assignment

/-! ## Readers of entries -/

/-- A member with how it is read from a tree of values. -/
structure Reader (σ : Type) extends Member σ where
  read : Layered → Except SettingError Kind

namespace Reader

variable {readers : List (Reader σ)} {entries : List (String × Layered)}

/-- The assignments that entries stand for; a key of no member has none. -/
def assignments (readers : List (Reader σ)) (entries : List (String × Layered)) :
    List (Assignment σ) :=
  entries.filterMap fun (key, entry) =>
    (readers.find? fun reader => reader.key = key).map fun reader => ⟨reader.toMember, reader.read entry⟩

section Cons

variable {key : String} {entry : Layered} {rest : List (String × Layered)}

theorem assignments_cons_of_none (unknown : (readers.find? fun reader => reader.key = key) = none) :
    assignments readers ((key, entry) :: rest) = assignments readers rest := by
  simp only [assignments, List.filterMap_cons, unknown, Option.map_none]

theorem assignments_cons_of_some {reader : Reader σ}
    (found : (readers.find? fun reader => reader.key = key) = some reader) :
    assignments readers ((key, entry) :: rest) =
      ⟨reader.toMember, reader.read entry⟩ :: assignments readers rest := by
  simp only [assignments, List.filterMap_cons, found, Option.map_some]

end Cons

/-- The members that are read make up the structure. -/
abbrev MakesUp (readers : List (Reader σ)) : Prop := MakeUp (readers.map Reader.toMember)

theorem find?_key (makesUp : MakesUp readers) {reader : Reader σ} (member : reader ∈ readers) :
    (readers.find? fun other => other.key = reader.key) = some reader := by
  have distinct : (readers.map fun other => other.key).Nodup := by
    have keys := makesUp.distinct
    rwa [List.map_map] at keys
  cases found : readers.find? fun other => other.key = reader.key with
  | none => exact absurd (decide_eq_true rfl) (List.find?_eq_none.1 found reader member)
  | some other =>
      have same : other.key = reader.key := by simpa using List.find?_some found
      rw [List.inj_on_of_nodup_map distinct (List.mem_of_find?_eq_some found) member same]

theorem mem_assignments_iff (makesUp : MakesUp readers) {assignment : Assignment σ} :
    assignment ∈ assignments readers entries ↔
      ∃ reader ∈ readers, ∃ entry, (reader.key, entry) ∈ entries ∧
        ⟨reader.toMember, reader.read entry⟩ = assignment := by
  rw [assignments, List.mem_filterMap]
  constructor
  · rintro ⟨⟨key, entry⟩, entry_mem, read⟩
    obtain ⟨reader, found, rfl⟩ := Option.map_eq_some_iff.1 read
    obtain rfl : reader.key = key := by simpa using List.find?_some found
    exact ⟨reader, List.mem_of_find?_eq_some found, entry, entry_mem, rfl⟩
  · rintro ⟨reader, reader_mem, entry, entry_mem, rfl⟩
    exact ⟨_, entry_mem, congrArg (Option.map _) (find?_key makesUp reader_mem)⟩

theorem assignments_keys_sublist :
    ((assignments readers entries).map fun assignment => assignment.member.key).Sublist
      (entries.map Prod.fst) := by
  induction entries with
  | nil => exact List.Sublist.refl _
  | cons head rest ih =>
      obtain ⟨key, entry⟩ := head
      cases found : readers.find? fun reader => reader.key = key with
      | none =>
          rw [assignments_cons_of_none found]
          exact ih.cons _
      | some reader =>
          rw [assignments_cons_of_some found]
          obtain rfl : reader.key = key := by simpa using List.find?_some found
          exact ih.cons_cons _

variable (makesUp : MakesUp readers) (ordered : InKeyOrder entries) {whole : σ}

include makesUp ordered

/-- Entries can be read when each member can that is given. -/
theorem exists_readAll_iff :
    (∃ after, Assignment.applyAll whole (assignments readers entries) = .ok after) ↔
      ∀ reader ∈ readers, ∀ entry, SortedEntries.get? reader.key entries = some entry →
        ∃ value, reader.read entry = .ok value := by
  rw [Assignment.exists_applyAll_iff]
  constructor
  · intro all reader reader_mem entry found
    exact all ⟨reader.toMember, reader.read entry⟩ ((mem_assignments_iff makesUp).2
      ⟨reader, reader_mem, entry, SortedEntries.mem_of_get?_eq_some found, rfl⟩)
  · intro all assignment assigned
    obtain ⟨reader, reader_mem, entry, entry_mem, rfl⟩ := (mem_assignments_iff makesUp).1 assigned
    exact all reader reader_mem entry (SortedEntries.get?_of_mem ordered entry_mem)

/-- **Entries give the members of their keys, and all others stay.** -/
theorem readAll_eq_ok_iff {after : σ} :
    Assignment.applyAll whole (assignments readers entries) = .ok after ↔
      ∀ reader ∈ readers, Gives ((SortedEntries.get? reader.key entries).map reader.read)
        (reader.get whole) (reader.get after) := by
  have known : ∀ assignment ∈ assignments readers entries,
      assignment.member ∈ readers.map Reader.toMember := by
    intro assignment assigned
    obtain ⟨reader, reader_mem, _, _, rfl⟩ := (mem_assignments_iff makesUp).1 assigned
    exact List.mem_map_of_mem reader_mem
  have once : ((assignments readers entries).map fun assignment => assignment.member.key).Nodup := by
    refine assignments_keys_sublist.nodup (List.pairwise_map.2 (ordered.imp fun before => ?_))
    exact ne_of_compare_ne (by rw [before]; nofun)
  rw [Assignment.applyAll_eq_ok_iff makesUp known once]
  constructor
  · rintro ⟨all, kept⟩ reader reader_mem
    cases found : SortedEntries.get? reader.key entries with
    | none =>
        refine kept reader.toMember (List.mem_map_of_mem reader_mem) fun assigned => ?_
        obtain ⟨⟨key, entry⟩, entry_mem, rfl⟩ := List.mem_map.1 (assignments_keys_sublist.subset assigned)
        cases found.symm.trans (SortedEntries.get?_of_mem ordered entry_mem)
    | some entry =>
        exact all ⟨reader.toMember, reader.read entry⟩ ((mem_assignments_iff makesUp).2
          ⟨reader, reader_mem, entry, SortedEntries.mem_of_get?_eq_some found, rfl⟩)
  · intro gives
    constructor
    · intro assignment assigned
      obtain ⟨reader, reader_mem, entry, entry_mem, rfl⟩ := (mem_assignments_iff makesUp).1 assigned
      have given := gives reader reader_mem
      rwa [SortedEntries.get?_of_mem ordered entry_mem] at given
    · intro member member_mem absent
      obtain ⟨reader, reader_mem, rfl⟩ := List.mem_map.1 member_mem
      have given := gives reader reader_mem
      cases found : SortedEntries.get? reader.key entries with
      | none => rwa [found] at given
      | some entry =>
          refine absurd (List.mem_map.2 ⟨_, (mem_assignments_iff makesUp).2
            ⟨reader, reader_mem, entry, SortedEntries.mem_of_get?_eq_some found, rfl⟩, rfl⟩) absent

end Reader

end MemoryFabric

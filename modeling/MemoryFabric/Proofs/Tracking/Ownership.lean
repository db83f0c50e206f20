import MemoryFabric.Proofs.Tracking.EnabledLines
import Mathlib.Logic.Relation

/-!
# Handles and children

An entity has an end when nobody has a handle to it any more and all its children have come to their ends.
Of this, the entity itself only shows whether there is a handle, and how many of its children live.
`Tracking.Owned` says what the two mean: which handles are left, and which entities have gone, the first of
them first.  In this order an entity stands behind all its children (`Owned.nested`), and therefore behind all
its descendants (**`Owned.nested_of_descends`**).

When the last handle to an entity goes, the entity may be left without anything that keeps it
(`IsSettledBut`).  It then ends, and the same may be true of its parent (`Owned.ends`).
-/

namespace MemoryFabric

set_option autoImplicit false

/-! ## Pairs in a list -/

/-- In a list without repetitions, what stands behind the second of two stands behind the first. -/
theorem pair_sublist_trans {α : Type} {list : List α} {first second third : α} (distinct : list.Nodup)
    (former : [first, second].Sublist list) (latter : [second, third].Sublist list) :
    [first, third].Sublist list := by
  induction list with
  | nil => cases former
  | cons head rest ih =>
      obtain ⟨new, distinct⟩ := List.nodup_cons.1 distinct
      cases latter with
      | cons _ latter =>
          cases former with
          | cons _ former => exact (ih distinct former latter).cons _
          | cons_cons _ _ => exact ((List.sublist_cons_self _ _).trans latter).cons_cons _
      | cons_cons _ _ =>
          -- The second is the head of the list, so it cannot stand behind another.
          cases former with
          | cons _ former => exact absurd (former.subset (by simp)) new
          | cons_cons _ former => exact absurd (former.subset (by simp)) new

/-- Two elements stand in a list in the order of their positions. -/
theorem pair_sublist_of_getElem? {α : Type} {list : List α} {first second : α} {earlier later : Nat}
    (before : earlier < later) (first_eq : list[earlier]? = some first)
    (second_eq : list[later]? = some second) : [first, second].Sublist list := by
  have front : first ∈ list.take later := by
    rw [List.mem_iff_getElem?]
    exact ⟨earlier, by rw [List.getElem?_take_of_lt before, first_eq]⟩
  have back : second ∈ list.drop later := by
    rw [List.mem_iff_getElem?]
    exact ⟨0, by rw [List.getElem?_drop, Nat.add_zero, second_eq]⟩
  have both := (List.singleton_sublist.2 front).append (List.singleton_sublist.2 back)
  rwa [List.take_append_drop] at both

theorem Entity.isAlive_eq_false_iff {entity : Entity} :
    entity.isAlive = false ↔ entity.isHeld = false ∧ entity.children = 0 := by
  rw [Entity.isAlive, Bool.or_eq_false_iff, decide_eq_false_iff_not, Nat.not_lt, Nat.le_zero]

namespace Tracking

variable {tracking : Tracking} {references rest gone : List EntityHandle}
  {handle other child parent : EntityHandle} {entity : Entity}

/-! ## Children -/

/-- The parent of an entity. -/
def parent? (tracking : Tracking) (handle : EntityHandle) : Option EntityHandle :=
  (tracking.get? handle).bind Entity.parent

/-- An entity descends from its parent, and from what its parent descends from. -/
def Descends (tracking : Tracking) : EntityHandle → EntityHandle → Prop :=
  Relation.TransGen fun child parent => tracking.parent? child = some parent

/-- The entities in the order of creation. -/
def handles (tracking : Tracking) : List EntityHandle :=
  (List.range tracking.entities.size).map EntityHandle.mk

/-- The children of an entity that have not gone. -/
def livingChildren (tracking : Tracking) (gone : List EntityHandle) (handle : EntityHandle) :
    List EntityHandle :=
  tracking.handles.filter fun child => decide (tracking.parent? child = some handle ∧ child ∉ gone)

theorem mem_handles_iff : handle ∈ tracking.handles ↔ ∃ entity, tracking.get? handle = some entity := by
  simp only [handles, List.mem_map, List.mem_range, get?, ← Option.isSome_iff_exists]
  constructor
  · rintro ⟨index, inside, rfl⟩
    simpa using inside
  · intro inside
    exact ⟨handle.index, by simpa using inside, rfl⟩

theorem handles_nodup : tracking.handles.Nodup :=
  List.nodup_range.map fun _ _ => EntityHandle.mk.inj

theorem parent?_eq (found : tracking.get? handle = some entity) :
    tracking.parent? handle = entity.parent := by
  rw [parent?, found]
  rfl

theorem mem_handles_of_parent? (isParent : tracking.parent? child = some parent) :
    child ∈ tracking.handles := by
  obtain ⟨entity, found, _⟩ := Option.bind_eq_some_iff.1 isParent
  exact mem_handles_iff.2 ⟨entity, found⟩

theorem mem_livingChildren_iff :
    child ∈ tracking.livingChildren gone handle ↔
      tracking.parent? child = some handle ∧ child ∉ gone := by
  simp only [livingChildren, List.mem_filter, decide_eq_true_eq]
  exact and_iff_right_of_imp fun isChild => mem_handles_of_parent? isChild.1

/-- When an entity goes, it is no living child any more. -/
theorem livingChildren_concat :
    tracking.livingChildren (gone ++ [child]) handle =
      (tracking.livingChildren gone handle).erase child := by
  have distinct : (tracking.livingChildren gone handle).Nodup := handles_nodup.filter _
  rw [distinct.erase_eq_filter, livingChildren, livingChildren, List.filter_filter]
  refine List.filter_congr fun other _ => ?_
  rw [Bool.eq_iff_iff]
  simp only [List.mem_append, List.mem_singleton, decide_eq_true_eq, Bool.and_eq_true, bne_iff_ne, ne_eq]
  tauto

/-! ### Changed entities -/

section Changes

variable {change : Entity → Entity} (kept : ∀ entity, (change entity).parent = entity.parent)

theorem handles_modifyAny {handle? : Option EntityHandle} :
    (tracking.modifyAny handle? change).handles = tracking.handles := by
  rw [handles, size_modifyAny]
  rfl

include kept

theorem parent?_modifyAny {handle? : Option EntityHandle} :
    (tracking.modifyAny handle? change).parent? other = tracking.parent? other := by
  rw [parent?, get?_modifyAny, parent?]
  split
  · rw [Option.bind_map]
    exact congrArg (tracking.get? other).bind (funext kept)
  · rfl

theorem livingChildren_modifyAny {handle? : Option EntityHandle} :
    (tracking.modifyAny handle? change).livingChildren gone other = tracking.livingChildren gone other := by
  simp only [livingChildren, handles_modifyAny, parent?_modifyAny kept]

end Changes

section Discounts

variable {above : Option EntityHandle}

/-- What becomes of the entities when one of them has a living child less. -/
theorem get?_discountChild : (tracking.discountChild above).get? handle =
    (tracking.get? handle).map fun former =>
      { former with children := former.children - if above = some handle then 1 else 0 } := by
  rw [discountChild, get?_modifyAny]
  split
  · rfl
  · exact Option.map_id'.symm

theorem handles_discountChild : (tracking.discountChild above).handles = tracking.handles :=
  handles_modifyAny

theorem parent?_discountChild : (tracking.discountChild above).parent? other = tracking.parent? other := by
  rw [discountChild, parent?_modifyAny]
  exact fun _ => rfl

theorem livingChildren_discountChild :
    (tracking.discountChild above).livingChildren gone other = tracking.livingChildren gone other := by
  rw [discountChild, livingChildren_modifyAny]
  exact fun _ => rfl

end Discounts

/-! ### A new entity -/

section Joined

variable {registered : Tracker} {identifier : UInt64} {above : Option EntityHandle} {name fullName : String}

/-- What a new entity is. -/
theorem get?_join_new (elsewhere : above ≠ some ⟨tracking.entities.size⟩) :
    (tracking.join registered identifier above name fullName).get? ⟨tracking.entities.size⟩ =
      some ⟨name, fullName, above, identifier, true, 0⟩ := by
  rw [join, countChild_eq, get?_modifyAny, if_neg elsewhere]
  exact Array.getElem?_push_size

/-- What becomes of the entities that there are. -/
theorem get?_join_of_some (found : tracking.get? handle = some entity) :
    (tracking.join registered identifier above name fullName).get? handle =
      some { entity with children := entity.children + if above = some handle then 1 else 0 } := by
  rw [join, countChild_eq, get?_modifyAny, get?_push_of_some found]
  split <;> rfl

theorem handles_join : (tracking.join registered identifier above name fullName).handles =
    tracking.handles ++ [⟨tracking.entities.size⟩] := by
  rw [join, countChild_eq, handles_modifyAny, handles, Array.size_push, List.range_succ, List.map_append]
  rfl

/-- An entity is one that there has been, or the new one. -/
theorem get?_join_cases (elsewhere : above ≠ some ⟨tracking.entities.size⟩)
    (found : (tracking.join registered identifier above name fullName).get? handle = some entity) :
    (∃ former, tracking.get? handle = some former ∧
        entity = { former with children := former.children + if above = some handle then 1 else 0 }) ∨
      handle = ⟨tracking.entities.size⟩ ∧ entity = ⟨name, fullName, above, identifier, true, 0⟩ := by
  have known := mem_handles_iff.2 ⟨entity, found⟩
  rw [handles_join, List.mem_append, List.mem_singleton] at known
  rcases known with before | rfl
  · obtain ⟨former, former_eq⟩ := mem_handles_iff.1 before
    cases found.symm.trans (get?_join_of_some former_eq)
    exact .inl ⟨former, former_eq, rfl⟩
  · cases found.symm.trans (get?_join_new elsewhere)
    exact .inr ⟨rfl, rfl⟩

theorem not_mem_handles_size : (⟨tracking.entities.size⟩ : EntityHandle) ∉ tracking.handles := by
  simp [handles]

theorem parent?_join (elsewhere : above ≠ some ⟨tracking.entities.size⟩) :
    (tracking.join registered identifier above name fullName).parent? handle =
      if handle = ⟨tracking.entities.size⟩ then above else tracking.parent? handle := by
  split
  · next new =>
      subst new
      exact parent?_eq (get?_join_new elsewhere)
  · next before =>
      cases found : tracking.get? handle with
      | some entity => rw [parent?_eq (get?_join_of_some found), parent?_eq found]
      | none =>
          have unknown : handle ∉ (tracking.join registered identifier above name fullName).handles := by
            rw [handles_join, List.mem_append, List.mem_singleton, not_or, mem_handles_iff, found]
            exact ⟨nofun, before⟩
          rw [mem_handles_iff, not_exists] at unknown
          rw [parent?, Option.eq_none_iff_forall_ne_some.2 unknown, parent?, found]

/-- A new entity is one more living child of its parent. -/
theorem livingChildren_join (elsewhere : above ≠ some ⟨tracking.entities.size⟩)
    (new : (⟨tracking.entities.size⟩ : EntityHandle) ∉ gone) :
    ((tracking.join registered identifier above name fullName).livingChildren gone handle).length =
      (tracking.livingChildren gone handle).length + if above = some handle then 1 else 0 := by
  have same : ∀ other ∈ tracking.handles,
      (tracking.join registered identifier above name fullName).parent? other = tracking.parent? other := by
    intro other member
    rw [parent?_join elsewhere, if_neg fun new => not_mem_handles_size (new ▸ member)]
  rw [livingChildren, handles_join, List.filter_append, List.length_append, livingChildren,
    List.filter_congr fun other member => by rw [same other member], List.filter_singleton,
    parent?_join elsewhere, if_pos rfl]
  simp only [new, not_false_eq_true, and_true]
  split <;> simp_all

end Joined

/-! ## Owned entities -/

/-- Whether an entity lives. -/
def lives (tracking : Tracking) (handle : EntityHandle) : Bool := (tracking.get? handle).any Entity.isAlive

theorem mem_handles_of_lives (lives : tracking.lives handle = true) : handle ∈ tracking.handles := by
  obtain ⟨entity, found, _⟩ := (Option.any_eq_true _ _).1 lives
  exact mem_handles_iff.2 ⟨entity, found⟩

/-- A parent that lives is not the entity that is still to come. -/
theorem ne_new_of_lives {above : Option EntityHandle} (allowed : above.all tracking.lives = true) :
    above ≠ some ⟨tracking.entities.size⟩ := by
  rintro rfl
  exact not_mem_handles_size (mem_handles_of_lives allowed)

/-- These handles to entities are left, and these entities have gone, one after another. -/
structure Owned (tracking : Tracking) (references gone : List EntityHandle) : Prop where
  older : ∀ handle parent, tracking.parent? handle = some parent → parent.index < handle.index
  held : ∀ handle entity, tracking.get? handle = some entity → (entity.isHeld = true ↔ handle ∈ references)
  counted : ∀ handle entity, tracking.get? handle = some entity →
    entity.children = (tracking.livingChildren gone handle).length
  referenced : ∀ handle ∈ references, handle ∈ tracking.handles
  ended : ∀ handle ∈ gone, ∃ entity, tracking.get? handle = some entity ∧ entity.isAlive = false
  distinct : gone.Nodup
  /-- A child has gone before its parent. -/
  nested : ∀ child handle, tracking.parent? child = some handle → handle ∈ gone →
    [child, handle].Sublist gone

/-- Every entity that nothing keeps has gone, except perhaps one. -/
def IsSettledBut (tracking : Tracking) (gone : List EntityHandle) (loose : Option EntityHandle) : Prop :=
  ∀ handle entity, tracking.get? handle = some entity → entity.isAlive = false →
    handle ∈ gone ∨ loose = some handle

namespace Owned

theorem start (tracker : Tracker) : (Tracking.start tracker).Owned [] [] :=
  ⟨nofun, nofun, nofun, nofun, nofun, List.nodup_nil, nofun⟩

variable (owned : tracking.Owned references gone)

include owned

theorem not_mem_gone_of_lives (lives : tracking.lives handle = true) : handle ∉ gone := by
  intro member
  obtain ⟨entity, found, dead⟩ := owned.ended handle member
  rw [Tracking.lives, found, Option.any_some, dead] at lives
  cases lives

theorem mem_handles_of_mem_gone (member : handle ∈ gone) : handle ∈ tracking.handles := by
  obtain ⟨entity, found, _⟩ := owned.ended handle member
  exact mem_handles_iff.2 ⟨entity, found⟩

/-- A parent is an entity. -/
theorem parent_mem_handles (isParent : tracking.parent? child = some parent) : parent ∈ tracking.handles := by
  have before := owned.older child parent isParent
  have known := mem_handles_of_parent? isParent
  simp only [handles, List.mem_map, List.mem_range] at known ⊢
  obtain ⟨index, inside, rfl⟩ := known
  exact ⟨parent.index, Nat.lt_trans before inside, rfl⟩

/-- **Nothing keeps an entity exactly when no handle to it is left and all its children have gone.** -/
theorem isAlive_eq_false_iff (found : tracking.get? handle = some entity) :
    entity.isAlive = false ↔
      handle ∉ references ∧ ∀ child, tracking.parent? child = some handle → child ∈ gone := by
  rw [Entity.isAlive_eq_false_iff, ← Bool.not_eq_true, owned.held handle entity found,
    owned.counted handle entity found, List.length_eq_zero_iff, List.eq_nil_iff_forall_not_mem]
  simp only [mem_livingChildren_iff, not_and, not_not]

/-- The parent of an entity that has not gone has not gone. -/
theorem parent_not_mem_gone (isParent : tracking.parent? child = some parent) (living : child ∉ gone) :
    parent ∉ gone := fun member =>
  living ((owned.nested child parent isParent member).subset (by simp))

/-- **An entity has gone after all its descendants.** -/
theorem nested_of_descends (descends : tracking.Descends child handle) (member : handle ∈ gone) :
    [child, handle].Sublist gone := by
  induction descends using Relation.TransGen.head_induction_on with
  | single isParent => exact owned.nested _ _ isParent member
  | head isParent _ ih =>
      exact pair_sublist_trans owned.distinct (owned.nested _ _ isParent (ih.subset (by simp))) ih

/-- A tracker owns nothing. -/
theorem changeTracker (tracker : Tracker) :
    ({ tracking with tracker } : Tracking).Owned references gone :=
  ⟨owned.older, owned.held, owned.counted, owned.referenced, owned.ended, owned.distinct, owned.nested⟩

/-- Other handles to the same entities. -/
theorem changeReferences (same : ∀ other, other ∈ references ↔ other ∈ rest) : tracking.Owned rest gone :=
  ⟨owned.older, fun other entity found => (owned.held other entity found).trans (same other), owned.counted,
    fun other member => owned.referenced other ((same other).2 member), owned.ended, owned.distinct,
    owned.nested⟩

/-- The first handle to an entity comes, or the last one goes. -/
theorem setHeld {isHeld : Bool} (known : handle ∈ tracking.handles)
    (own : isHeld = true ↔ handle ∈ rest)
    (others : ∀ other, other ≠ handle → (other ∈ references ↔ other ∈ rest))
    (stays : handle ∈ gone → isHeld = false) :
    (tracking.modifyAny (some handle) fun entity => { entity with isHeld }).Owned rest gone := by
  have kept : ∀ entity : Entity, ({ entity with isHeld } : Entity).parent = entity.parent := fun _ => rfl
  refine ⟨fun other above isParent => ?_, fun other entity found => ?_, fun other entity found => ?_,
    fun other member => ?_, fun other member => ?_, owned.distinct, fun other above isParent member => ?_⟩
  · rw [parent?_modifyAny kept] at isParent
    exact owned.older other above isParent
  · rw [get?_modifyAny] at found
    split at found
    · next same =>
        obtain ⟨former, _, rfl⟩ := Option.map_eq_some_iff.1 found
        cases same
        exact own
    · next different =>
        exact (owned.held other entity found).trans (others other fun same => different (same ▸ rfl))
  · rw [livingChildren_modifyAny kept]
    rw [get?_modifyAny] at found
    split at found
    · obtain ⟨former, former_eq, rfl⟩ := Option.map_eq_some_iff.1 found
      exact owned.counted other former former_eq
    · exact owned.counted other entity found
  · rw [handles_modifyAny]
    by_cases same : other = handle
    · exact same ▸ known
    · exact owned.referenced other ((others other same).2 member)
  · obtain ⟨former, former_eq, dead⟩ := owned.ended other member
    rw [get?_modifyAny, former_eq]
    split
    · next same =>
        cases same
        have childless := (Entity.isAlive_eq_false_iff.1 dead).2
        exact ⟨_, rfl, Entity.isAlive_eq_false_iff.2 ⟨stays member, childless⟩⟩
    · exact ⟨former, rfl, dead⟩
  · rw [parent?_modifyAny kept] at isParent
    exact owned.nested other above isParent member

/-- **An entity that nothing keeps goes**, and its parent has one living child less. -/
theorem ends (found : tracking.get? handle = some entity) (dead : entity.isAlive = false)
    (living : handle ∉ gone) : (tracking.discountChild entity.parent).Owned references (gone ++ [handle]) := by
  have distinct : (gone ++ [handle]).Nodup := by
    rw [List.nodup_append_comm]
    exact List.nodup_cons.2 ⟨living, owned.distinct⟩
  refine ⟨fun other above isParent => ?_, fun other late late_eq => ?_, fun other late late_eq => ?_,
    fun other member => ?_, fun other member => ?_, distinct, fun other above isParent member => ?_⟩
  · rw [parent?_discountChild] at isParent
    exact owned.older other above isParent
  · rw [get?_discountChild] at late_eq
    obtain ⟨former, former_eq, rfl⟩ := Option.map_eq_some_iff.1 late_eq
    exact owned.held other former former_eq
  · have isChild : handle ∈ tracking.livingChildren gone other ↔ entity.parent = some other := by
      rw [mem_livingChildren_iff, parent?_eq found]
      exact and_iff_left living
    rw [get?_discountChild] at late_eq
    obtain ⟨former, former_eq, rfl⟩ := Option.map_eq_some_iff.1 late_eq
    rw [livingChildren_discountChild, livingChildren_concat, List.length_erase]
    simp only [isChild, owned.counted other former former_eq]
    split <;> rfl
  · rw [handles_discountChild]
    exact owned.referenced other member
  · obtain ⟨former, former_eq, former_dead⟩ : ∃ former, tracking.get? other = some former ∧
        former.isAlive = false := by
      rcases List.mem_append.1 member with before | now
      · exact owned.ended other before
      · cases List.mem_singleton.1 now
        exact ⟨entity, found, dead⟩
    obtain ⟨unheld, childless⟩ := Entity.isAlive_eq_false_iff.1 former_dead
    rw [get?_discountChild, former_eq]
    exact ⟨_, rfl, Entity.isAlive_eq_false_iff.2 ⟨unheld, by simp [childless]⟩⟩
  · rw [parent?_discountChild] at isParent
    rcases List.mem_append.1 member with before | now
    · exact (owned.nested other above isParent before).trans (List.sublist_append_left _ _)
    · cases List.mem_singleton.1 now
      have before := ((owned.isAlive_eq_false_iff found).1 dead).2 other isParent
      exact (List.singleton_sublist.2 before).append (List.Sublist.refl [handle])

/-- A new entity with a handle to it, below an entity that lives. -/
theorem join {above : Option EntityHandle} (allowed : above.all tracking.lives = true) (registered : Tracker)
    (identifier : UInt64) (name fullName : String) :
    (tracking.join registered identifier above name fullName).Owned
      (⟨tracking.entities.size⟩ :: references) gone := by
  have elsewhere := ne_new_of_lives allowed
  have new : (⟨tracking.entities.size⟩ : EntityHandle) ∉ gone := fun member =>
    not_mem_handles_size (owned.mem_handles_of_mem_gone member)
  refine ⟨fun other parent isParent => ?_, fun other late late_eq => ?_, fun other late late_eq => ?_,
    fun other member => ?_, fun other member => ?_, owned.distinct, fun other parent isParent member => ?_⟩
  · rw [parent?_join elsewhere] at isParent
    split at isParent
    · next same =>
        cases isParent
        have known := mem_handles_of_lives allowed
        simp only [handles, List.mem_map, List.mem_range] at known
        obtain ⟨index, inside, rfl⟩ := known
        exact same ▸ inside
    · exact owned.older other parent isParent
  · rcases get?_join_cases elsewhere late_eq with ⟨former, former_eq, rfl⟩ | ⟨rfl, rfl⟩
    · have before : other ≠ ⟨tracking.entities.size⟩ := fun same =>
        not_mem_handles_size (same ▸ mem_handles_iff.2 ⟨former, former_eq⟩)
      rw [List.mem_cons, or_iff_right before]
      exact owned.held other former former_eq
    · exact iff_of_true rfl List.mem_cons_self
  · rw [livingChildren_join elsewhere new]
    rcases get?_join_cases elsewhere late_eq with ⟨former, former_eq, rfl⟩ | ⟨rfl, rfl⟩
    · rw [owned.counted other former former_eq]
    · have childless : tracking.livingChildren gone ⟨tracking.entities.size⟩ = [] := by
        refine List.eq_nil_iff_forall_not_mem.2 fun child member => ?_
        exact not_mem_handles_size (owned.parent_mem_handles (mem_livingChildren_iff.1 member).1)
      rw [childless, if_neg elsewhere]
      rfl
  · rw [handles_join, List.mem_append, List.mem_singleton]
    rcases List.mem_cons.1 member with rfl | before
    · exact .inr rfl
    · exact .inl (owned.referenced other before)
  · obtain ⟨former, former_eq, dead⟩ := owned.ended other member
    have another : above ≠ some other := by
      rintro rfl
      exact owned.not_mem_gone_of_lives allowed member
    refine ⟨_, get?_join_of_some former_eq, ?_⟩
    rw [if_neg another]
    exact dead
  · rw [parent?_join elsewhere] at isParent
    split at isParent
    · cases isParent
      exact absurd member (owned.not_mem_gone_of_lives allowed)
    · exact owned.nested other parent isParent member

end Owned

/-! ### Entities that have not gone yet -/

namespace IsSettledBut

theorem start (tracker : Tracker) : (Tracking.start tracker).IsSettledBut [] none := nofun

theorem changeTracker {loose : Option EntityHandle} (settled : tracking.IsSettledBut gone loose)
    (tracker : Tracker) : ({ tracking with tracker } : Tracking).IsSettledBut gone loose := settled

/-- The entity whose handles change may be left without anything that keeps it. -/
theorem setHeld (settled : tracking.IsSettledBut gone none) {isHeld : Bool} :
    (tracking.modifyAny (some handle) fun entity => { entity with isHeld }).IsSettledBut gone
      (some handle) := by
  intro other entity found dead
  rw [get?_modifyAny] at found
  split at found
  · next same => exact .inr same
  · exact .inl ((settled other entity found dead).resolve_right nofun)

theorem of_isAlive (settled : tracking.IsSettledBut gone (some handle))
    (found : tracking.get? handle = some entity) (living : entity.isAlive = true) :
    tracking.IsSettledBut gone none := by
  intro other late late_eq dead
  refine (settled other late late_eq dead).imp_right fun same => ?_
  cases same
  cases found.symm.trans late_eq
  cases living.symm.trans dead

/-- When an entity has gone, its parent is the next that may have to go. -/
theorem ends (settled : tracking.IsSettledBut gone (some handle)) (above : Option EntityHandle) :
    (tracking.discountChild above).IsSettledBut (gone ++ [handle]) above := by
  intro other entity found dead
  by_cases isParent : above = some other
  · exact .inr isParent
  · rw [discountChild, get?_modifyAny, if_neg isParent] at found
    rcases settled other entity found dead with before | same
    · exact .inl (List.mem_append_left _ before)
    · cases same
      exact .inl (List.mem_append_right _ List.mem_cons_self)

theorem join (settled : tracking.IsSettledBut gone none) {above : Option EntityHandle}
    (elsewhere : above ≠ some ⟨tracking.entities.size⟩) {registered : Tracker} {identifier : UInt64}
    {name fullName : String} :
    (tracking.join registered identifier above name fullName).IsSettledBut gone none := by
  intro other entity found dead
  rcases get?_join_cases elsewhere found with ⟨former, former_eq, rfl⟩ | ⟨_, rfl⟩
  · obtain ⟨unheld, childless⟩ := Entity.isAlive_eq_false_iff.1 dead
    exact settled other former former_eq
      (Entity.isAlive_eq_false_iff.2 ⟨unheld, Nat.eq_zero_of_add_eq_zero_right childless⟩)
  · cases dead

end IsSettledBut

/-- **Who has gone**: the entities to which no handle is left and whose children have gone. -/
theorem Owned.mem_gone_iff (owned : tracking.Owned references gone)
    (settled : tracking.IsSettledBut gone none) :
    handle ∈ gone ↔ handle ∈ tracking.handles ∧ handle ∉ references ∧
      ∀ child, tracking.parent? child = some handle → child ∈ gone := by
  constructor
  · intro member
    obtain ⟨entity, found, dead⟩ := owned.ended handle member
    exact ⟨mem_handles_iff.2 ⟨entity, found⟩, (owned.isAlive_eq_false_iff found).1 dead⟩
  · rintro ⟨known, unkept⟩
    obtain ⟨entity, found⟩ := mem_handles_iff.1 known
    exact (settled handle entity found ((owned.isAlive_eq_false_iff found).2 unkept)).resolve_right nofun

/-- Who lives: the entities that have not gone. -/
theorem Owned.lives_iff (owned : tracking.Owned references gone)
    (settled : tracking.IsSettledBut gone none) :
    tracking.lives handle = true ↔ handle ∈ tracking.handles ∧ handle ∉ gone := by
  constructor
  · exact fun lives => ⟨mem_handles_of_lives lives, owned.not_mem_gone_of_lives lives⟩
  · rintro ⟨known, living⟩
    obtain ⟨entity, found⟩ := mem_handles_iff.1 known
    rw [Tracking.lives, found, Option.any_some, ← Bool.not_eq_false]
    exact fun dead => living ((settled handle entity found dead).resolve_right nofun)

end Tracking

end MemoryFabric

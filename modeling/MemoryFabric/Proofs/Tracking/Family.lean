import MemoryFabric.Proofs.Host.Growth
import MemoryFabric.Proofs.Tracking.EntityLevels

/-!
# Families of entities

What the owner of entities may do with them, and what happens to the entities then, told without identifiers
that are counted, levels that are looked up and children that are counted.  A family remembers the ancestors
and the names of every entity, who is held and who is gone.  An entity lives until its owner lets go of it and
none of its children lives any more; its ancestors that are kept by nothing else end with it, one after another
(`Family.depart`).

The ancestors of an entity stand before it, and nothing keeps an entity that is gone (`Family.Sound`); every
allowed action leaves it so.
-/

namespace MemoryFabric

set_option autoImplicit false

/-! ## Actions -/

/-- What an owner does with entities. -/
inductive EntityAction where
  | create (parent : Option EntityHandle) (name : String)
  | log (entity : EntityHandle) (level : Level) (text : String)
  | connect (source target : EntityHandle)
  | release (entity : EntityHandle)
  deriving DecidableEq, Repr

/-- The identifiers of entities are 2, 3 and so on, in the order of creation. -/
def EntityHandle.number (handle : EntityHandle) : Nat := handle.index + 2

/-- A member of a family. -/
structure Relative where
  /-- The ancestors, the nearest first. -/
  ancestors : List EntityHandle
  /-- The names of the ancestors, the farthest first, and the member's own name. -/
  path : List String
  isHeld : Bool
  isGone : Bool
  deriving DecidableEq, Repr, Inhabited

namespace Relative

def fullName (member : Relative) : String := "::".intercalate member.path

def parent (member : Relative) : Option EntityHandle := member.ancestors.head?

/-- The identifier of the parent; 0 stands for no entity. -/
def origin (member : Relative) : Nat := (member.parent.map EntityHandle.number).getD 0

/-- The line about the creation of the member. -/
def createdLine (handle : EntityHandle) (member : Relative) : String :=
  s!"{member.origin}: created {handle.number}, {member.fullName}"

/-- The line about the end of the member. -/
def destroyedLine (handle : EntityHandle) (member : Relative) : String :=
  s!"{member.origin}: destroyed {handle.number}"

def isLivingChildOf (handle : EntityHandle) (member : Relative) : Bool :=
  member.parent = some handle && !member.isGone

/-- The member without its owner. -/
def letGo (member : Relative) : Relative := { member with isHeld := false }

/-- The member after its end. -/
def ended (member : Relative) : Relative := { member with isGone := true }

end Relative

/-- Entities in the order of creation. -/
structure Family where
  members : List Relative
  deriving DecidableEq, Repr

namespace Family

def empty : Family := ⟨[]⟩

def get? (family : Family) (handle : EntityHandle) : Option Relative := family.members[handle.index]?

def modify (family : Family) (handle : EntityHandle) (change : Relative → Relative) : Family :=
  ⟨family.members.modify handle.index change⟩

def push (family : Family) (member : Relative) : Family := ⟨family.members ++ [member]⟩

/-- Whether an entity is held by its owner. -/
def holds (family : Family) (handle : EntityHandle) : Bool := (family.get? handle).any Relative.isHeld

/-- Whether there is an entity that has not come to its end. -/
def lives (family : Family) (handle : EntityHandle) : Bool :=
  (family.get? handle).any fun member => !member.isGone

/-- Whether something keeps an entity from its end: its owner or a living child. -/
def isKept (family : Family) (handle : EntityHandle) : Bool :=
  family.holds handle || family.members.any (Relative.isLivingChildOf handle)

/-- Whether all identifiers but the last word are used up. -/
def isFull (family : Family) : Bool := Word.count ≤ family.members.length + 3

/-- The member that a creation adds. -/
def newborn (family : Family) (parent : Option EntityHandle) (name : String) : Relative :=
  match parent with
  | none => ⟨[], [name], true, false⟩
  | some handle =>
    let elder := (family.get? handle).getD default
    ⟨handle :: elder.ancestors, elder.path ++ [name], true, false⟩

/-- What an entity does. -/
def about (family : Family) (handle : EntityHandle) (level : Level) (line : Relative → String) :
    List Occurrence :=
  ((family.get? handle).map fun member => ⟨member.fullName, level, line member⟩).toList

/-- The end of an entity and of those of its ancestors, the nearest first, that nothing else keeps. -/
def depart (family : Family) : List EntityHandle → List Occurrence × Family
  | [] => ([], family)
  | handle :: ancestors =>
    if family.isKept handle then ([], family)
    else
      let ending := family.about handle .trace (Relative.destroyedLine handle)
      let (later, last) := (family.modify handle Relative.ended).depart ancestors
      (ending ++ later, last)

/-- What happens at an action, and the family after it. -/
def step (family : Family) : EntityAction → List Occurrence × Family
  | .create parent name =>
    if family.isFull then ([], family)
    else
      let member := family.newborn parent name
      ([⟨member.fullName, .trace, member.createdLine ⟨family.members.length⟩⟩], family.push member)
  | .log entity level text =>
    (family.about entity level fun _ => s!"{entity.number}:{level.name}: {text}", family)
  | .connect source target =>
    (family.about source .trace fun _ => s!"{source.number}: connect to {target.number}", family)
  | .release entity =>
    (family.modify entity Relative.letGo).depart
      (entity :: ((family.get? entity).map Relative.ancestors).getD [])

/-- What happens at actions one after another, and the family after them. -/
def run (family : Family) : List EntityAction → List Occurrence × Family
  | [] => ([], family)
  | action :: rest =>
    let (now, next) := family.step action
    let (later, last) := next.run rest
    (now ++ later, last)

/-- Whether an owner can do an action: it needs a reference to every entity that the action is about. -/
def allows (family : Family) : EntityAction → Bool
  | .create parent _ => parent.all family.lives
  | .log entity _ _ => family.lives entity
  | .connect source target => family.lives source && family.lives target
  | .release entity => family.holds entity

/-- Whether an owner can do actions one after another. -/
def allowsAll (family : Family) : List EntityAction → Bool
  | [] => true
  | action :: rest => family.allows action && (family.step action).2.allowsAll rest

/-! ## Look-ups and counts -/

/-- A change of one element changes the count by that element. -/
theorem countP_modify {α : Type} {counts : α → Bool} {change : α → α} {list : List α} {position : Nat}
    {value : α} (found : list[position]? = some value) :
    (list.modify position change).countP counts + (if counts value then 1 else 0) =
      list.countP counts + if counts (change value) then 1 else 0 := by
  induction list generalizing position with
  | nil => cases found
  | cons head rest ih =>
      cases position with
      | zero =>
          cases found
          rw [List.modify_zero_cons, List.countP_cons, List.countP_cons]
          omega
      | succ position =>
          have rest_eq := ih found
          rw [List.modify_succ_cons, List.countP_cons, List.countP_cons]
          omega

variable {family : Family} {handle other : EntityHandle} {member : Relative}

/-- The number of children of an entity that live. -/
def livingChildren (family : Family) (handle : EntityHandle) : Nat :=
  family.members.countP (Relative.isLivingChildOf handle)

theorem isKept_eq_false_iff :
    family.isKept handle = false ↔ family.holds handle = false ∧ family.livingChildren handle = 0 := by
  simp [isKept, livingChildren, List.countP_eq_zero]

theorem index_inj : handle.index = other.index ↔ handle = other :=
  ⟨congrArg EntityHandle.mk, congrArg EntityHandle.index⟩

theorem get?_modify {change : Relative → Relative} :
    (family.modify handle change).get? other =
      if handle = other then (family.get? other).map change else family.get? other := by
  rw [get?, modify, List.getElem?_modify, get?]
  simp only [index_inj]
  split
  · rfl
  · cases family.members[other.index]? <;> rfl

theorem get?_push_of_some {next : Relative} (found : family.get? handle = some member) :
    (family.push next).get? handle = some member := by
  obtain ⟨inside, _⟩ := List.getElem?_eq_some_iff.1 found
  exact (List.getElem?_append_left inside).trans found

theorem get?_push_cases {next : Relative} (found : (family.push next).get? handle = some member) :
    family.get? handle = some member ∨ handle.index = family.members.length ∧ member = next :=
  getElem?_concat_cases found

theorem livingChildren_letGo :
    (family.modify handle Relative.letGo).livingChildren other = family.livingChildren other := by
  have shows : ∀ list : List Relative, list.countP (Relative.isLivingChildOf other) =
      (list.map (Relative.isLivingChildOf other)).countP id := fun list => by
    rw [List.countP_map]
    rfl
  have kept : ∀ member : Relative, Relative.isLivingChildOf other member.letGo =
    Relative.isLivingChildOf other member := fun _ => rfl
  rw [livingChildren, livingChildren, shows, shows, modify, map_modify kept]

theorem livingChildren_ended (found : family.get? handle = some member) (living : member.isGone = false) :
    (family.modify handle Relative.ended).livingChildren other +
      (if member.parent = some other then 1 else 0) = family.livingChildren other := by
  have counted : (family.members.modify handle.index Relative.ended).countP
        (Relative.isLivingChildOf other) + (if Relative.isLivingChildOf other member then 1 else 0) =
      family.members.countP (Relative.isLivingChildOf other) +
        if Relative.isLivingChildOf other member.ended then 1 else 0 := countP_modify found
  have before : Relative.isLivingChildOf other member = decide (member.parent = some other) := by
    rw [Relative.isLivingChildOf, living, Bool.not_false, Bool.and_true]
  have after : Relative.isLivingChildOf other member.ended = false := Bool.and_false _
  rw [before, after] at counted
  simp only [decide_eq_true_eq, Bool.false_eq_true, if_false, Nat.add_zero] at counted
  exact counted

/-! ## Sound families -/

/-- Every member has a name and stands after its ancestors, and nothing keeps an entity that is gone. -/
structure Sound (family : Family) : Prop where
  named : ∀ handle member, family.get? handle = some member → member.path ≠ []
  lineage : ∀ handle member parent, family.get? handle = some member → member.parent = some parent →
    parent.index < handle.index ∧
      ∃ elder, family.get? parent = some elder ∧ member.ancestors = parent :: elder.ancestors
  departed : ∀ handle member, family.get? handle = some member → member.isGone = true →
    family.isKept handle = false

theorem Sound.empty : Sound .empty := ⟨nofun, nofun, nofun⟩

/-- The parent of an entity that lives is not gone. -/
theorem Sound.parent_lives (sound : Sound family) (found : family.get? handle = some member)
    (living : member.isGone = false) {parent : EntityHandle} (isParent : member.parent = some parent)
    {elder : Relative} (elder_eq : family.get? parent = some elder) : elder.isGone = false := by
  have isChild : Relative.isLivingChildOf parent member = true := by
    rw [Relative.isLivingChildOf, isParent, living, decide_eq_true rfl]
    rfl
  refine Bool.eq_false_iff.2 fun gone => ?_
  obtain ⟨_, childless⟩ := isKept_eq_false_iff.1 (sound.departed parent elder elder_eq gone)
  exact List.countP_eq_zero.1 childless member (List.mem_of_getElem? found) isChild

/-- Members with fewer owners and more of them gone. -/
structure Shrinks (before after : Family) : Prop where
  members : ∀ handle, (after.get? handle).map (fun member => (member.ancestors, member.path)) =
    (before.get? handle).map fun member => (member.ancestors, member.path)
  kept : ∀ handle, before.isKept handle = false → after.isKept handle = false

section Shrinks

variable {before after : Family}

theorem Shrinks.exists_before (shrinks : Shrinks before after) (found : after.get? handle = some member) :
    ∃ former, before.get? handle = some former ∧ former.ancestors = member.ancestors ∧
      former.path = member.path := by
  have same := shrinks.members handle
  rw [found] at same
  obtain ⟨former, former_eq, view⟩ := Option.map_eq_some_iff.1 same.symm
  exact ⟨former, former_eq, congrArg Prod.fst view, congrArg Prod.snd view⟩

theorem Sound.shrink (sound : Sound before) (shrinks : Shrinks before after)
    (departed : ∀ handle member, after.get? handle = some member → member.isGone = true →
      after.isKept handle = false) : Sound after := by
  refine ⟨fun handle member found => ?_, fun handle member parent found isParent => ?_, departed⟩
  · obtain ⟨former, former_eq, _, path⟩ := shrinks.exists_before found
    rw [← path]
    exact sound.named handle former former_eq
  · obtain ⟨former, former_eq, ancestors, _⟩ := shrinks.exists_before found
    obtain ⟨earlier, elder, elder_eq, lineage⟩ := sound.lineage handle former parent former_eq
      (by rw [Relative.parent, ancestors]; exact isParent)
    have same := shrinks.members parent
    rw [elder_eq] at same
    obtain ⟨now, now_eq, view⟩ := Option.map_eq_some_iff.1 same
    have same_ancestors : now.ancestors = elder.ancestors := congrArg Prod.fst view
    exact ⟨earlier, now, now_eq, by rw [← ancestors, lineage, same_ancestors]⟩

end Shrinks

theorem shrinks_modify {change : Relative → Relative}
    (kept : ∀ other, family.isKept other = false → (family.modify handle change).isKept other = false)
    (view : ∀ member, (change member).ancestors = member.ancestors ∧ (change member).path = member.path) :
    Shrinks family (family.modify handle change) := by
  refine ⟨fun other => ?_, kept⟩
  rw [get?_modify]
  split
  · cases family.get? other with
    | none => rfl
    | some member => simp only [Option.map_some, view]
  · rfl

theorem isKept_letGo (unkept : family.isKept other = false) :
    (family.modify handle Relative.letGo).isKept other = false := by
  obtain ⟨unheld, childless⟩ := isKept_eq_false_iff.1 unkept
  refine isKept_eq_false_iff.2 ⟨?_, livingChildren_letGo.trans childless⟩
  rw [holds, get?_modify]
  split
  · cases family.get? other <;> rfl
  · exact unheld

theorem isKept_ended (found : family.get? handle = some member) (living : member.isGone = false)
    (unkept : family.isKept other = false) : (family.modify handle Relative.ended).isKept other = false := by
  obtain ⟨unheld, childless⟩ := isKept_eq_false_iff.1 unkept
  refine isKept_eq_false_iff.2 ⟨?_, ?_⟩
  · rw [holds, get?_modify]
    split
    · rw [holds] at unheld
      cases there : family.get? other with
      | none => rfl
      | some member => rw [there] at unheld; exact unheld
    · exact unheld
  · have counted : (family.modify handle Relative.ended).livingChildren other +
        (if member.parent = some other then 1 else 0) = family.livingChildren other :=
      livingChildren_ended found living
    omega

/-- An owner lets go of an entity. -/
theorem Sound.letGo (sound : Sound family) : Sound (family.modify handle Relative.letGo) := by
  refine sound.shrink (shrinks_modify (fun _ => isKept_letGo) fun _ => ⟨rfl, rfl⟩)
    fun other member found gone => isKept_letGo ?_
  rw [get?_modify] at found
  split at found
  · obtain ⟨former, former_eq, rfl⟩ := Option.map_eq_some_iff.1 found
    exact sound.departed other former former_eq gone
  · exact sound.departed other member found gone

/-- An entity that nothing keeps comes to its end. -/
theorem Sound.ended (sound : Sound family) (found : family.get? handle = some member)
    (living : member.isGone = false) (unkept : family.isKept handle = false) :
    Sound (family.modify handle Relative.ended) := by
  refine sound.shrink (shrinks_modify (fun _ => isKept_ended found living) fun _ => ⟨rfl, rfl⟩)
    fun other late late_eq gone => isKept_ended found living ?_
  rw [get?_modify] at late_eq
  split at late_eq
  · next same => exact same ▸ unkept
  · exact sound.departed other late late_eq gone

/-! ### Newborn members -/

section Newborn

variable {parent : Option EntityHandle} {name : String}

theorem newborn_parent : (family.newborn parent name).parent = parent := by
  cases parent <;> rfl

theorem newborn_isGone : (family.newborn parent name).isGone = false := by
  cases parent <;> rfl

/-- A creation adds a living child to the parent. -/
theorem livingChildren_newborn :
    (family.push (family.newborn parent name)).livingChildren handle =
      family.livingChildren handle + if parent = some handle then 1 else 0 := by
  rw [livingChildren, push, List.countP_append, List.countP_singleton, Relative.isLivingChildOf,
    newborn_parent, newborn_isGone, Bool.not_false, Bool.and_true, livingChildren]
  simp only [decide_eq_true_eq]

theorem exists_of_lives (lives : family.lives handle = true) :
    ∃ member, family.get? handle = some member ∧ member.isGone = false := by
  obtain ⟨member, found, living⟩ := (Option.any_eq_true _ _).1 lives
  exact ⟨member, found, by simpa using living⟩

/-- A creation under a parent that lives. -/
theorem Sound.push (sound : Sound family) (allowed : parent.all family.lives = true) :
    Sound (family.push (family.newborn parent name)) := by
  refine ⟨fun handle member found => ?_, fun handle member above found isParent => ?_,
    fun handle member found gone => ?_⟩
  · rcases get?_push_cases found with before | ⟨_, rfl⟩
    · exact sound.named handle member before
    · cases parent with
      | none => exact List.cons_ne_nil _ _
      | some above => exact List.append_ne_nil_of_right_ne_nil _ (List.cons_ne_nil _ _)
  · rcases get?_push_cases found with before | ⟨last, rfl⟩
    · obtain ⟨earlier, elder, elder_eq, lineage⟩ := sound.lineage handle member above before isParent
      exact ⟨earlier, elder, get?_push_of_some elder_eq, lineage⟩
    · rw [newborn_parent] at isParent
      subst isParent
      obtain ⟨elder, elder_eq, _⟩ := exists_of_lives allowed
      obtain ⟨inside, _⟩ := List.getElem?_eq_some_iff.1 elder_eq
      exact ⟨last ▸ inside, elder, get?_push_of_some elder_eq, by simp [newborn, elder_eq]⟩
  · rcases get?_push_cases found with before | ⟨_, rfl⟩
    · obtain ⟨unheld, childless⟩ := isKept_eq_false_iff.1 (sound.departed handle member before gone)
      -- The new member has a parent that lives, which is not this one.
      have elsewhere : parent ≠ some handle := by
        rintro rfl
        obtain ⟨elder, elder_eq, living⟩ := exists_of_lives allowed
        cases before.symm.trans elder_eq
        cases gone.symm.trans living
      refine isKept_eq_false_iff.2 ⟨?_, ?_⟩
      · rw [holds, before] at unheld
        rw [holds, get?_push_of_some before]
        exact unheld
      · rw [livingChildren_newborn, childless, if_neg elsewhere]
    · cases newborn_isGone.symm.trans gone

/-- No member is a child of one that is still to come. -/
theorem Sound.livingChildren_eq_zero (sound : Sound family) (outside : family.members.length ≤ handle.index) :
    family.livingChildren handle = 0 := by
  refine List.countP_eq_zero.2 fun member present isChild => ?_
  obtain ⟨position, inside, rfl⟩ := List.getElem_of_mem present
  obtain ⟨isParent, _⟩ := Bool.and_eq_true_iff.1 isChild
  obtain ⟨earlier, _⟩ := sound.lineage ⟨position⟩ _ handle (List.getElem?_eq_getElem inside)
    (of_decide_eq_true isParent)
  have earlier : handle.index < position := earlier
  omega

end Newborn

/-! ### Members stay -/

theorem length_depart {handles : List EntityHandle} :
    (family.depart handles).2.members.length = family.members.length := by
  induction handles generalizing family with
  | nil => rfl
  | cons handle ancestors ih =>
      rw [depart]
      split
      · rfl
      · exact ih.trans (List.length_modify ..)

theorem length_le_step (action : EntityAction) :
    family.members.length ≤ (family.step action).2.members.length := by
  cases action with
  | create parent name =>
      rw [step]
      split
      · exact Nat.le_refl _
      · exact (List.prefix_append ..).length_le
  | log entity level text => exact Nat.le_refl _
  | connect source target => exact Nat.le_refl _
  | release entity => exact Nat.le_of_eq (by rw [step, length_depart, modify, List.length_modify])

/-- A family that is full stays full. -/
theorem isFull_run {actions : List EntityAction} (full : family.isFull = true) :
    (family.run actions).2.isFull = true := by
  induction actions generalizing family with
  | nil => exact full
  | cons action rest ih =>
      have before : Word.count ≤ family.members.length + 3 := of_decide_eq_true full
      have grown := family.length_le_step action
      have after : Word.count ≤ (family.step action).2.members.length + 3 := by omega
      exact ih (decide_eq_true after)

end Family

end MemoryFabric

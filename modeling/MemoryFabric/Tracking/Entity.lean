import MemoryFabric.Text.Quoted
import MemoryFabric.Tracking.Tracker

/-!
# Entities

Every part of a fabric has an entity, with a name, a parent and an identifier.  An entity lives as long as
its owner holds it or one of its children lives.  When neither is the case any more, its end is recorded,
and its parent has one living child less; so parents outlive their children.
-/

namespace MemoryFabric

set_option autoImplicit false

/-- The number of an entity in the order of creation. -/
structure EntityHandle where
  index : Nat
  deriving DecidableEq, Repr, Inhabited

/-- An entity. -/
structure Entity where
  name : String
  /-- The names of all ancestors and of the entity itself. -/
  fullName : String
  parent : Option EntityHandle
  identifier : UInt64
  /-- Whether the owner holds the entity. -/
  isHeld : Bool
  /-- The number of living children. -/
  children : Nat
  deriving DecidableEq, Repr

/-- Whether an entity lives. -/
def Entity.isAlive (entity : Entity) : Bool := entity.isHeld || 0 < entity.children

/-- A tracker with all entities that have been created under it. -/
structure Tracking where
  tracker : Tracker
  entities : Array Entity

namespace Tracking

/-- A tracker without entities. -/
def start (tracker : Tracker) : Tracking := ⟨tracker, #[]⟩

/-- The entity of a handle. -/
def get? (tracking : Tracking) (handle : EntityHandle) : Option Entity :=
  tracking.entities[handle.index]?

/-- The identifier of a handle; 0 stands for no entity. -/
def identifier (tracking : Tracking) (handle : EntityHandle) : UInt64 :=
  ((tracking.get? handle).map Entity.identifier).getD 0

/-- The identifier of a parent. -/
def parentIdentifier (tracking : Tracking) : Option EntityHandle → UInt64
  | some parent => tracking.identifier parent
  | none => 0

/-- The full name of a handle. -/
def fullName (tracking : Tracking) (handle : EntityHandle) : String :=
  ((tracking.get? handle).map Entity.fullName).getD ""

/-- Record an event when it is enabled. -/
def observe (tracking : Tracking) (event : Event) : Tracking :=
  { tracking with tracker := tracking.tracker.observe event }

/-- Change an entity. -/
def modify (tracking : Tracking) (handle : EntityHandle) (change : Entity → Entity) : Tracking :=
  { tracking with entities := tracking.entities.modify handle.index change }

/-- Count a new child of an entity, if there is a parent at all. -/
def countChild (tracking : Tracking) : Option EntityHandle → Tracking
  | some parent =>
    tracking.modify parent fun entity => { entity with children := entity.children + 1 }
  | none => tracking

/-- The full name of a new entity. -/
def childName (tracking : Tracking) (parent : Option EntityHandle) (name : String) : String :=
  match parent with
  | some parent => tracking.fullName parent ++ "::" ++ name
  | none => name

/-- Create an entity, held by its owner; the outcome is a fault when no identifier is left or when the
tracker knows the identifier already. -/
def create (tracking : Tracking) (parent : Option EntityHandle) (name : String) :
    Except Fault EntityHandle × Tracking :=
  match tracking.tracker.freshIdentifier with
  | .error fault => (.error fault, tracking)
  | .ok (identifier, tracker) =>
    let fullName := tracking.childName parent name
    match tracker.register identifier fullName with
    | (some fault, tracker) => (.error fault, { tracking with tracker })
    | (none, tracker) =>
      let entity : Entity := ⟨name, fullName, parent, identifier, true, 0⟩
      let handle : EntityHandle := ⟨tracking.entities.size⟩
      let tracking := countChild ⟨tracker, tracking.entities.push entity⟩ parent
      (.ok handle,
        tracking.observe (.created (tracking.parentIdentifier parent) identifier fullName))

/-- Record the end of an entity that lives no longer, and of every ancestor that ends with it. -/
def buryAt (index : Nat) (tracking : Tracking) : Tracking :=
  match tracking.get? ⟨index⟩ with
  | none => tracking
  | some entity =>
    if entity.isAlive then tracking
    else
      let tracking :=
        tracking.observe (.destroyed (tracking.parentIdentifier entity.parent) entity.identifier)
      match entity.parent with
      | none => tracking
      | some parent =>
        let tracking :=
          tracking.modify parent fun entity => { entity with children := entity.children - 1 }
        if parent.index < index then buryAt parent.index tracking else tracking
termination_by index

/-- Let go of an entity that its owner holds. -/
def release (tracking : Tracking) (handle : EntityHandle) : Tracking :=
  if (tracking.get? handle).any Entity.isHeld then
    buryAt handle.index (tracking.modify handle fun entity => { entity with isHeld := false })
  else tracking

/-- Let go of entities, from the first to the last. -/
def releaseAll (tracking : Tracking) (handles : List EntityHandle) : Tracking :=
  handles.foldl release tracking

/-- Record a message of an entity. -/
def log (tracking : Tracking) (handle : EntityHandle) (level : Level) (text : String) : Tracking :=
  tracking.observe (.message (tracking.identifier handle) level text)

/-- Record that an entity is connected to another one. -/
def connect (tracking : Tracking) (source target : EntityHandle) : Tracking :=
  tracking.observe (.connected (tracking.identifier source) (tracking.identifier target))

/-- The description of an entity with all its ancestors. -/
def describeAt (tracking : Tracking) (index : Nat) : String :=
  match tracking.get? ⟨index⟩ with
  | none => ""
  | some entity =>
    let parent :=
      match entity.parent with
      | none => "None"
      | some parent =>
        if parent.index < index then "Some(" ++ describeAt tracking parent.index ++ ")" else "None"
    "Entity \x7b name: " ++ Text.quoted entity.name ++ ", parent: " ++ parent ++
      ", id: " ++ toString entity.identifier.toNat ++ " \x7d"
termination_by index

/-- The description of an entity with all its ancestors. -/
def describe (tracking : Tracking) (handle : EntityHandle) : String :=
  tracking.describeAt handle.index

end Tracking

end MemoryFabric

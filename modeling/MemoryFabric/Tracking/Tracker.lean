import MemoryFabric.Fault
import MemoryFabric.SortedMap
import MemoryFabric.Tracking.Level
import MemoryFabric.Word

/-!
# Trackers

A tracker gives identifiers to entities and records their events.  There are trackers that record nothing,
that write lines of text about the entities enabled by their filters, that collect all events, and that
pass everything on to several trackers.
-/

namespace MemoryFabric

set_option autoImplicit false

/-! ## Events -/

/-- What can happen to an entity. -/
inductive Event where
  | created (origin : UInt64) (identifier : UInt64) (name : String)
  | destroyed (origin : UInt64) (identifier : UInt64)
  | connected (source target : UInt64)
  | message (identifier : UInt64) (level : Level) (text : String)
  deriving DecidableEq, Repr

namespace Event

/-- The entity whose level decides about the event. -/
def actor : Event → UInt64
  | .created _ identifier _ => identifier
  | .destroyed _ identifier => identifier
  | .connected source _ => source
  | .message identifier _ _ => identifier

/-- The level of the event. -/
def level : Event → Level
  | .message _ level _ => level
  | _ => .trace

/-- The event in the log. -/
def written : Event → String
  | .created origin identifier name =>
    s!"{origin.toNat}: created {identifier.toNat}, {name}"
  | .destroyed origin identifier => s!"{origin.toNat}: destroyed {identifier.toNat}"
  | .connected source target => s!"{source.toNat}: connect to {target.toNat}"
  | .message identifier level text => s!"{identifier.toNat}:{level.name}: {text}"

end Event

/-! ## Levels of entities -/

/-- A filter: the entities it selects by their full names, and their level. -/
structure LevelFilter where
  selects : String → Bool
  level : Level

/-- The levels of the registered entities; those at the default level are not listed. -/
structure Registry where
  defaultLevel : Level
  filters : List LevelFilter
  next : UInt64
  levels : SortedMap Nat Level

namespace Registry

/-- A registry without entities.  The identifiers 0 and 1 are reserved. -/
def empty (defaultLevel : Level) (filters : List LevelFilter) : Registry :=
  ⟨defaultLevel, filters, 2, ∅⟩

/-- The next identifier and the registry after it; a fault when there is none left. -/
def freshIdentifier (registry : Registry) : Except Fault (UInt64 × Registry) := do
  return (registry.next, { registry with next := ← Word.add registry.next 1 })

/-- The level that the filters give to a name: the first filter counts that selects it. -/
def levelOf (registry : Registry) (name : String) : Level :=
  match registry.filters.find? fun filter => filter.selects name with
  | some filter => filter.level
  | none => registry.defaultLevel

/-- Register an entity.  A second entity of the same identifier is noticed only when both have a level of
their own; its level is kept all the same. -/
def register (registry : Registry) (identifier : UInt64) (name : String) :
    Option Fault × Registry :=
  let level := registry.levelOf name
  if level = registry.defaultLevel then (none, registry)
  else
    let fault :=
      if registry.levels.contains identifier.toNat then some (Fault.duplicateEntity identifier name)
      else none
    (fault, { registry with levels := registry.levels.insert identifier.toNat level })

/-- Whether events of a level are enabled for an identifier. -/
def isEnabled (registry : Registry) (identifier : UInt64) (level : Level) : Bool :=
  level ≤ (registry.levels.get? identifier.toNat).getD registry.defaultLevel

end Registry

/-! ## Trackers -/

/-- A tracker with what it has recorded so far. -/
inductive Tracker where
  | silent
  | text (registry : Registry) (lines : Array String)
  | collecting (next : UInt64) (events : Array Event)
  | several (next : UInt64) (trackers : List Tracker)

namespace Tracker

/-- A text tracker that has written nothing. -/
def ofRegistry (registry : Registry) : Tracker := .text registry #[]

/-- The next identifier and the tracker after it; a fault when there is none left. -/
def freshIdentifier : Tracker → Except Fault (UInt64 × Tracker)
  | .silent => .ok (0, .silent)
  | .text registry lines => do
    let (identifier, registry) ← registry.freshIdentifier
    return (identifier, .text registry lines)
  | .collecting next events => do return (next, .collecting (← Word.add next 1) events)
  | .several next trackers => do return (next, .several (← Word.add next 1) trackers)

mutual

/-- Whether events of a level are enabled for an identifier. -/
def isEnabled (identifier : UInt64) (level : Level) : Tracker → Bool
  | .silent => false
  | .text registry _ => registry.isEnabled identifier level
  | .collecting _ _ => true
  | .several _ trackers => isAnyEnabled identifier level trackers

/-- Whether events of a level are enabled for an identifier in one of several trackers. -/
def isAnyEnabled (identifier : UInt64) (level : Level) : List Tracker → Bool
  | [] => false
  | tracker :: rest => tracker.isEnabled identifier level || isAnyEnabled identifier level rest

end

mutual

/-- Register an entity. -/
def register (identifier : UInt64) (name : String) : Tracker → Option Fault × Tracker
  | .silent => (none, .silent)
  | .text registry lines =>
    let (fault, registry) := registry.register identifier name
    (fault, .text registry lines)
  | .collecting next events => (none, .collecting next events)
  | .several next trackers =>
    let (fault, trackers) := registerAll identifier name trackers
    (fault, .several next trackers)

/-- Register an entity with several trackers, up to the first fault. -/
def registerAll (identifier : UInt64) (name : String) :
    List Tracker → Option Fault × List Tracker
  | [] => (none, [])
  | tracker :: rest =>
    match tracker.register identifier name with
    | (some fault, tracker) => (some fault, tracker :: rest)
    | (none, tracker) =>
      let (fault, rest) := registerAll identifier name rest
      (fault, tracker :: rest)

end

mutual

/-- Record an event whatever the level of its entity; several trackers each decide for themselves. -/
def record (event : Event) : Tracker → Tracker
  | .silent => .silent
  | .text registry lines => .text registry (lines.push event.written)
  | .collecting next events => .collecting next (events.push event)
  | .several next trackers => .several next (observeAll event trackers)

/-- Record an event with each of several trackers for which it is enabled. -/
def observeAll (event : Event) : List Tracker → List Tracker
  | [] => []
  | tracker :: rest =>
    let tracker :=
      if tracker.isEnabled event.actor event.level then tracker.record event else tracker
    tracker :: observeAll event rest

end

/-- Record an event when it is enabled. -/
def observe (tracker : Tracker) (event : Event) : Tracker :=
  if tracker.isEnabled event.actor event.level then tracker.record event else tracker

/-- The lines that a text tracker has written. -/
def lines : Tracker → List String
  | .text _ lines => lines.toList
  | _ => []

/-- Lines as one text, each with a line feed at its end. -/
def textOfLines (lines : List String) : String :=
  String.join (lines.map fun line => line ++ "\n")

/-- What a text tracker has written. -/
def writtenText (tracker : Tracker) : String := textOfLines tracker.lines

end Tracker

end MemoryFabric

import MemoryFabric.Proofs.Tracking.Room

/-!
# Levels of entities

A text tracker lists only the levels that differ from its default, and it looks a level up by the identifier of
an entity.  It knows its entities when every look-up gives the level that its filters have for the full name
(`Tracker.Knows`).  It then writes the line of an event exactly when the level of the event is enabled for the
name of the acting entity (**`Tracker.Knows.observe`**), and the next entity gets the next identifier, which is
none that it has seen before (**`Tracker.Knows.exists_registered`**).
-/

namespace MemoryFabric

set_option autoImplicit false

/-- An element of a list with one more element is an element of the list or the new one. -/
theorem getElem?_concat_cases {α : Type} {list : List α} {last value : α} {position : Nat}
    (found : (list ++ [last])[position]? = some value) :
    list[position]? = some value ∨ position = list.length ∧ value = last := by
  rw [List.getElem?_append] at found
  split at found
  · exact .inl found
  · next outside =>
      obtain ⟨inside, rfl⟩ := List.getElem?_eq_some_iff.1 found
      rw [List.length_singleton] at inside
      exact .inr ⟨by omega, List.getElem_singleton inside⟩

/-! ## What a tracker should write -/

/-- Something that an entity does: the full name of the entity, the level of detail, and the line about it. -/
structure Occurrence where
  actor : String
  level : Level
  line : String
  deriving DecidableEq, Repr

section Levels

variable (defaultLevel : Level) (filters : List LevelFilter)

/-- The level for a name: that of the first filter that selects it, or else the default. -/
def firstLevel (name : String) : Level :=
  ((filters.find? fun filter => filter.selects name).map LevelFilter.level).getD defaultLevel

/-- Whether an occurrence is enabled for the entity that acts. -/
def Occurrence.isEnabled (occurrence : Occurrence) : Bool :=
  occurrence.level ≤ firstLevel defaultLevel filters occurrence.actor

/-- The lines about the occurrences that are enabled, in their order. -/
def enabledLines (occurrences : List Occurrence) : List String :=
  (occurrences.filter (Occurrence.isEnabled defaultLevel filters)).map Occurrence.line

variable {defaultLevel filters}

theorem enabledLines_append {first second : List Occurrence} :
    enabledLines defaultLevel filters (first ++ second) =
      enabledLines defaultLevel filters first ++ enabledLines defaultLevel filters second := by
  rw [enabledLines, List.filter_append, List.map_append]
  rfl

/-- The level that a registry gives to a name. -/
theorem levelOf_eq {next : UInt64} {levels : SortedMap Nat Level} {name : String} :
    Registry.levelOf ⟨defaultLevel, filters, next, levels⟩ name = firstLevel defaultLevel filters name := by
  rw [Registry.levelOf, firstLevel]
  cases filters.find? fun filter => filter.selects name <;> rfl

/-! ## What a tracker knows -/

namespace Tracker

/-- A text tracker that has written the given lines and finds for every entity the level for its full name, the
entities given by their names in the order of creation. -/
inductive Knows (defaultLevel : Level) (filters : List LevelFilter) (names written : List String) :
    Tracker → Prop
  | text {next : UInt64} {levels : SortedMap Nat Level} {lines : Array String}
      (lines_eq : lines.toList = written) (next_eq : next.toNat = names.length + 2)
      (found : ∀ position name, names[position]? = some name →
        (levels.get? (position + 2)).getD defaultLevel = firstLevel defaultLevel filters name)
      (opened : ∀ identifier, names.length + 2 ≤ identifier → levels.get? identifier = none) :
      Knows defaultLevel filters names written (.text ⟨defaultLevel, filters, next, levels⟩ lines)

/-- A new tracker knows no entities. -/
theorem Knows.start : Knows defaultLevel filters [] [] (.ofRegistry (.empty defaultLevel filters)) :=
  .text rfl rfl nofun fun _ _ => rfl

namespace Knows

variable {names written : List String} {tracker : Tracker}
  (knows : Knows defaultLevel filters names written tracker)

include knows

theorem lines_eq : tracker.lines = written := by
  cases knows with
  | text lines_eq => exact lines_eq

/-- **The line of an event is written exactly when the event is enabled for the entity.** -/
theorem observe {position : Nat} {name : String} (named : names[position]? = some name) {event : Event}
    (actor : event.actor.toNat = position + 2) :
    Knows defaultLevel filters names
      (written ++ enabledLines defaultLevel filters [⟨name, event.level, event.written⟩])
      (tracker.observe event) := by
  cases knows with
  | @text next levels lines lines_eq next_eq found opened =>
      have enabled : (Tracker.text ⟨defaultLevel, filters, next, levels⟩ lines).isEnabled
          event.actor event.level =
            Occurrence.isEnabled defaultLevel filters ⟨name, event.level, event.written⟩ := by
        rw [Tracker.isEnabled, Registry.isEnabled, actor, found position name named]
        rfl
      rw [Tracker.observe, enabled]
      cases decided : Occurrence.isEnabled defaultLevel filters ⟨name, event.level, event.written⟩ with
      | true =>
          refine .text ?_ next_eq found opened
          simp [enabledLines, decided, lines_eq]
      | false =>
          refine .text ?_ next_eq found opened
          simp [enabledLines, decided, lines_eq]

/-- When the last identifier has been given there is none for another entity. -/
theorem freshIdentifier_of_full (full : Word.count ≤ names.length + 3) :
    tracker.freshIdentifier = .error .overflow := by
  cases knows with
  | @text next levels lines lines_eq next_eq found opened =>
      have added : Word.add next 1 = .error .overflow := by
        have one : (1 : UInt64).toNat = 1 := rfl
        rw [Word.add, Word.fit, if_neg (by omega)]
      rw [freshIdentifier, Registry.freshIdentifier, added]
      rfl

/-- **The next entity gets the next identifier and is known by its name.** -/
theorem exists_registered (room : names.length + 3 < Word.count) (name : String) :
    ∃ identifier given registered, tracker.freshIdentifier = .ok (identifier, given) ∧
      given.register identifier name = (none, registered) ∧ identifier.toNat = names.length + 2 ∧
        Knows defaultLevel filters (names ++ [name]) written registered := by
  cases knows with
  | @text next levels lines lines_eq next_eq found opened =>
      obtain ⟨after, added, after_eq⟩ := @next_of_room next 0 (by omega)
      have length : (names ++ [name]).length = names.length + 1 := List.length_append
      have after_eq : after.toNat = (names ++ [name]).length + 2 := by omega
      have counted : freshIdentifier (.text ⟨defaultLevel, filters, next, levels⟩ lines) =
          .ok (next, .text ⟨defaultLevel, filters, after, levels⟩ lines) := by
        rw [freshIdentifier, Registry.freshIdentifier, added]
        rfl
      have unlisted : levels.get? (names.length + 2) = none := opened _ (Nat.le_refl _)
      by_cases plain : firstLevel defaultLevel filters name = defaultLevel
      · -- An entity at the default level is not listed.
        refine ⟨_, _, _, counted, by rw [register, Registry.register, levelOf_eq, if_pos plain], next_eq,
          .text lines_eq after_eq (fun position other named => ?_)
            fun identifier later => opened identifier (by omega)⟩
        rcases getElem?_concat_cases named with before | ⟨rfl, rfl⟩
        · exact found position other before
        · rw [unlisted, plain]
          rfl
      · have unseen : levels.contains next.toNat = false := by
          rw [SortedMap.contains, next_eq, unlisted]
          rfl
        refine ⟨_, _, _, counted, by
          rw [register, Registry.register, levelOf_eq, if_neg plain, unseen]
          rfl, next_eq, .text lines_eq after_eq (fun position other named => ?_)
            fun identifier later => ?_⟩
        · rw [SortedMap.get?_insert, next_eq]
          rcases getElem?_concat_cases named with before | ⟨rfl, rfl⟩
          · obtain ⟨inside, _⟩ := List.getElem?_eq_some_iff.1 before
            rw [if_neg (by omega)]
            exact found position other before
          · rw [if_pos rfl]
            rfl
        · rw [SortedMap.get?_insert, if_neg (by omega)]
          exact opened identifier (by omega)

end Knows

end Tracker

end Levels

end MemoryFabric

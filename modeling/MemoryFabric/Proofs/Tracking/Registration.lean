import MemoryFabric.Proofs.SortedMap
import MemoryFabric.Proofs.Tracking.EntityLevels

/-!
# Repeated registrations

A registry lists the entities whose level is not the default, and it notices a repeated identifier by its list
only.  So registrations go through exactly when the listed ones have distinct identifiers
(`Registry.registerEach_eq_ok_iff`), whatever the others are.  An entity at the default level that repeats the
identifier of a listed one is taken for it.

Main statement: **`Registry.registersOnce_iff`**, by which registrations that go through leave every entity with
the level for its name exactly when no identifier is repeated, or when the repetition is among the listed entities
and so stops them.
-/

namespace MemoryFabric

set_option autoImplicit false

namespace Registry

/-- Register entities from the first to the last, up to the first fault. -/
def registerEach (registry : Registry) : List (UInt64 × String) → Except Fault Registry
  | [] => .ok registry
  | (identifier, name) :: rest =>
      match registry.register identifier name with
      | (some fault, _) => .error fault
      | (none, registered) => registered.registerEach rest

section Registrations

variable (defaultLevel : Level) (filters : List LevelFilter)

/-- The identifiers and levels of the entities that are not at the default level, in the order of their
registration. -/
def ownLevels (registrations : List (UInt64 × String)) : List (Nat × Level) :=
  (registrations.map fun registration =>
    (registration.1.toNat, firstLevel defaultLevel filters registration.2)).filter
      fun entry => entry.2 ≠ defaultLevel

/-- When registrations go through, no identifier has been registered twice, and every entity is enabled at the
levels that the filters give to its name. -/
def RegistersOnce (registrations : List (UInt64 × String)) : Prop :=
  ∀ after, registerEach (.empty defaultLevel filters) registrations = .ok after →
    (registrations.map Prod.fst).Nodup ∧
      ∀ registration ∈ registrations, ∀ level,
        after.isEnabled registration.1 level = true ↔ level ≤ firstLevel defaultLevel filters registration.2

variable {defaultLevel filters} {next : UInt64} {levels : SortedMap Nat Level}
  {registrations : List (UInt64 × String)} {identifier : UInt64} {name : String}

/-! ## One registration -/

theorem register_of_default (plain : firstLevel defaultLevel filters name = defaultLevel) :
    register ⟨defaultLevel, filters, next, levels⟩ identifier name =
      (none, ⟨defaultLevel, filters, next, levels⟩) := by
  rw [register, levelOf_eq, if_pos plain]

theorem register_of_seen (own : firstLevel defaultLevel filters name ≠ defaultLevel)
    (seen : levels.contains identifier.toNat = true) :
    ∃ registered, register ⟨defaultLevel, filters, next, levels⟩ identifier name =
      (some (.duplicateEntity identifier name), registered) := by
  rw [register, levelOf_eq, if_neg own, if_pos seen]
  exact ⟨_, rfl⟩

theorem register_of_new (own : firstLevel defaultLevel filters name ≠ defaultLevel)
    (new : levels.contains identifier.toNat = false) :
    register ⟨defaultLevel, filters, next, levels⟩ identifier name =
      (none, ⟨defaultLevel, filters, next,
        levels.insert identifier.toNat (firstLevel defaultLevel filters name)⟩) := by
  rw [register, levelOf_eq, if_neg own, if_neg (Bool.eq_false_iff.1 new)]

/-! ## Several registrations -/

theorem ownLevels_cons_of_default (plain : firstLevel defaultLevel filters name = defaultLevel) :
    ownLevels defaultLevel filters ((identifier, name) :: registrations) =
      ownLevels defaultLevel filters registrations := by
  rw [ownLevels, List.map_cons, List.filter_cons_of_neg (by simp [plain])]
  rfl

theorem ownLevels_cons_of_own (own : firstLevel defaultLevel filters name ≠ defaultLevel) :
    ownLevels defaultLevel filters ((identifier, name) :: registrations) =
      (identifier.toNat, firstLevel defaultLevel filters name) ::
        ownLevels defaultLevel filters registrations := by
  rw [ownLevels, List.map_cons, List.filter_cons_of_pos (by simp [own])]
  rfl

/-- **Registrations go through exactly when the listed ones have new and distinct identifiers.** -/
theorem registerEach_eq_ok_iff {after : Registry} :
    registerEach ⟨defaultLevel, filters, next, levels⟩ registrations = .ok after ↔
      ((ownLevels defaultLevel filters registrations).map Prod.fst).Nodup ∧
        (∀ key ∈ (ownLevels defaultLevel filters registrations).map Prod.fst, levels.contains key = false) ∧
          after = ⟨defaultLevel, filters, next,
            levels.insertAll (ownLevels defaultLevel filters registrations)⟩ := by
  induction registrations generalizing levels with
  | nil =>
      have none_listed : ownLevels defaultLevel filters [] = [] := rfl
      rw [none_listed, registerEach, Except.ok.injEq, eq_comm]
      simp [SortedMap.insertAll]
  | cons registration rest ih =>
      obtain ⟨identifier, name⟩ := registration
      by_cases plain : firstLevel defaultLevel filters name = defaultLevel
      · rw [registerEach, register_of_default plain, ownLevels_cons_of_default plain]
        exact ih
      · rw [registerEach, ownLevels_cons_of_own plain, List.map_cons, List.nodup_cons, List.forall_mem_cons]
        cases seen : levels.contains identifier.toNat with
        | true =>
            obtain ⟨registered, registers⟩ :=
              @register_of_seen defaultLevel filters next levels identifier name plain seen
            rw [registers]
            simp
        | false =>
            rw [register_of_new plain seen]
            refine ih.trans ?_
            -- What is new to the longer list is new to the shorter one and is not the entity listed now.
            simp only [SortedMap.contains_insert, Bool.or_eq_false_iff, decide_eq_false_iff_not]
            constructor
            · rintro ⟨distinct, new, rfl⟩
              exact ⟨⟨fun repeated => (new _ repeated).1 rfl, distinct⟩,
                ⟨trivial, fun key member => (new key member).2⟩, rfl⟩
            · rintro ⟨⟨absent, distinct⟩, ⟨-, new⟩, rfl⟩
              refine ⟨distinct, fun key member => ⟨?_, new key member⟩, rfl⟩
              rintro rfl
              exact absent member

/-! ## What look-ups find -/

/-- The identifiers of the listed entities are among those of all. -/
theorem ownLevels_keys_sublist :
    ((ownLevels defaultLevel filters registrations).map Prod.fst).Sublist
      ((registrations.map Prod.fst).map UInt64.toNat) := by
  rw [ownLevels, List.map_map]
  refine (List.filter_sublist.map Prod.fst).trans ?_
  rw [List.map_map]
  exact List.Sublist.refl _

/-- A listed entity has been registered, and not at the default level. -/
theorem mem_ownLevels_iff {key : Nat} {level : Level} :
    (key, level) ∈ ownLevels defaultLevel filters registrations ↔
      (∃ registration ∈ registrations, registration.1.toNat = key ∧
        firstLevel defaultLevel filters registration.2 = level) ∧ level ≠ defaultLevel := by
  simp [ownLevels]

/-- When no identifier is repeated, an entity is found at the level for its name. -/
theorem get?_ownLevels (distinct : (registrations.map Prod.fst).Nodup)
    (member : (identifier, name) ∈ registrations) :
    (((∅ : SortedMap Nat Level).insertAll (ownLevels defaultLevel filters registrations)).get?
      identifier.toNat).getD defaultLevel = firstLevel defaultLevel filters name := by
  have listed_distinct : ((ownLevels defaultLevel filters registrations).map Prod.fst).Nodup :=
    (distinct.map fun _ _ => UInt64.toNat_inj.1).sublist ownLevels_keys_sublist
  by_cases plain : firstLevel defaultLevel filters name = defaultLevel
  · have absent : identifier.toNat ∉ (ownLevels defaultLevel filters registrations).map Prod.fst := by
      intro listed
      obtain ⟨⟨key, level⟩, found, same⟩ := List.mem_map.1 listed
      obtain ⟨⟨⟨other, title⟩, registered, key_eq, level_eq⟩, own⟩ := mem_ownLevels_iff.1 found
      -- The listed entity has the same identifier, so it is the same entity.
      obtain rfl : other = identifier := UInt64.toNat_inj.1 (key_eq.trans same)
      obtain rfl : title = name :=
        congrArg Prod.snd (List.inj_on_of_nodup_map distinct registered member rfl)
      exact own (level_eq.symm.trans plain)
    rw [SortedMap.get?_insertAll_of_not_mem absent, plain]
    rfl
  · have listed : (identifier.toNat, firstLevel defaultLevel filters name) ∈
        ownLevels defaultLevel filters registrations :=
      mem_ownLevels_iff.2 ⟨⟨_, member, rfl, rfl⟩, plain⟩
    rw [SortedMap.get?_insertAll_of_mem listed_distinct listed]
    rfl

/-- **Registering tells entities apart unless a repeated identifier goes unnoticed.** -/
theorem registersOnce_iff :
    RegistersOnce defaultLevel filters registrations ↔
      (registrations.map Prod.fst).Nodup ∨
        ¬ ((ownLevels defaultLevel filters registrations).map Prod.fst).Nodup := by
  constructor
  · intro once
    refine or_not_of_imp fun listed_distinct => ?_
    exact (once _ (registerEach_eq_ok_iff.2 ⟨listed_distinct, fun _ _ => rfl, rfl⟩)).1
  · rintro (distinct | repeated) after registered
    · obtain ⟨-, -, rfl⟩ := registerEach_eq_ok_iff.1 registered
      refine ⟨distinct, fun registration member level => ?_⟩
      rw [isEnabled, get?_ownLevels distinct member, decide_eq_true_iff]
    · exact absurd (registerEach_eq_ok_iff.1 registered).1 repeated

end Registrations

/-- Of two entities with one identifier, the second at the default level: both registrations go through, and the
second entity is enabled at the level of the first. -/
theorem not_registersOnce_of_default_level :
    ¬ RegistersOnce .warn [⟨fun name => name = "a", .trace⟩] [(5, "a"), (5, "b")] := by
  rw [registersOnce_iff]
  decide

end Registry

end MemoryFabric

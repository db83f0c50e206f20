import MemoryFabric.Fabric.Phase
import MemoryFabric.Proofs.Address.Coverage
import MemoryFabric.Proofs.Address.Partition
import MemoryFabric.Proofs.Address.Refusal

/-!
# Configurations with a partition

The first phase of a build only computes.  It stops at the first of its three checks that fails, for the
configuration or for the partition (`Partitioned.ofSettings_cases`); a configuration that passes them is
sound, so that every processing node has a working set.
-/

namespace MemoryFabric

set_option autoImplicit false

/-- What the check of a configuration makes sure of. -/
structure Settings.IsSound (settings : Settings) : Prop where
  memoryNodes : settings.memory.nodes.toNat ≠ 0
  memory : settings.memory.totalBytes ≠ 0
  processingNodes : settings.compute.processingNodes.toNat ≠ 0
  inside : ∀ index < settings.compute.processingNodes.toNat,
    index * workingSetStride < settings.memory.totalBytes.toNat

namespace Settings

variable {settings : Settings}

theorem toNat_ne_zero {word : UInt64} (nonzero : word ≠ 0) : word.toNat ≠ 0 :=
  Nat.ne_of_gt (Word.toNat_pos nonzero)

/-- The window of the last processing node is the lowest. -/
theorem isSound_of_check (accepted : settings.check = .ok ()) : settings.IsSound := by
  rw [check] at accepted
  split at accepted
  · cases accepted
  next memoryNodes =>
  split at accepted
  · cases accepted
  next memory =>
  split at accepted
  · cases accepted
  next processingNodes =>
  split at accepted
  · cases accepted
  split at accepted
  · cases accepted
  rw [WorkingSet.ofNode] at accepted
  split at accepted
  · next last =>
      refine ⟨toNat_ne_zero memoryNodes, memory, toNat_ne_zero processingNodes, fun index below => ?_⟩
      exact Nat.lt_of_le_of_lt (Nat.mul_le_mul_right _ (Nat.le_sub_one_of_lt below)) last
  · cases accepted

theorem check_error {error : BuildError} (refused : settings.check = .error error) :
    ∃ cause, error = .configuration cause := by
  rw [check] at refused
  repeat' split at refused
  all_goals first
    | exact ⟨_, (Except.error.inj refused).symm⟩
    | rw [WorkingSet.ofNode] at refused
      split at refused
      · cases refused
      · exact ⟨_, (Except.error.inj refused).symm⟩

end Settings

/-- An error of the first phase. -/
inductive BuildError.IsEarly : BuildError → Prop
  | configuration (cause : ConfigurationError) : IsEarly (.configuration cause)
  | partition (cause : PartitionError) : IsEarly (.partition cause)

/-- The first phase has shared out the addresses of the configuration. -/
structure Partitioned.IsFor (settings : Settings) (partitioned : Partitioned) : Prop where
  settings_eq : partitioned.settings = settings
  sound : settings.IsSound
  checked : settings.check = .ok ()
  shared : partition settings.memory.totalBytes settings.memory.nodes.toNat
    settings.memory.interleave = .ok partitioned.descriptors
  numbered : partitioned.descriptors.map NodeDescriptor.node =
    List.range settings.memory.nodes.toNat
  covered : verifyCoverage settings.memory.totalBytes partitioned.descriptors = .ok partitioned.decoder

/-- All checks of the first phase succeed. -/
def Settings.Passes (settings : Settings) : Prop :=
  ∃ descriptors decoder, settings.check = .ok () ∧
    partition settings.memory.totalBytes settings.memory.nodes.toNat settings.memory.interleave =
      .ok descriptors ∧
    verifyCoverage settings.memory.totalBytes descriptors = .ok decoder

/-- The first check of the first phase that fails. -/
inductive Settings.StopsWith (settings : Settings) : BuildError → Prop
  | check {error : BuildError} (refused : settings.check = .error error) : StopsWith settings error
  | partition {error : BuildError} (checked : settings.check = .ok ())
      (refused : partition settings.memory.totalBytes settings.memory.nodes.toNat
        settings.memory.interleave = .error (.reported error)) : StopsWith settings error
  | coverage {error : BuildError} {descriptors : List NodeDescriptor}
      (checked : settings.check = .ok ())
      (shared : MemoryFabric.partition settings.memory.totalBytes settings.memory.nodes.toNat
        settings.memory.interleave = .ok descriptors)
      (refused : verifyCoverage settings.memory.totalBytes descriptors = .error (.reported error)) :
      StopsWith settings error

/-- **The first phase shares out the addresses, or stops early with the first check that fails; it never
faults.** -/
theorem Partitioned.ofSettings_cases (settings : Settings) :
    (∃ partitioned, ofSettings settings = .ok partitioned ∧ partitioned.IsFor settings) ∨
      ∃ error, ofSettings settings = .error (.reported error) ∧ settings.StopsWith error ∧
        error.IsEarly := by
  cases checked : settings.check with
  | error error =>
      obtain ⟨cause, rfl⟩ := Settings.check_error checked
      refine .inr ⟨_, ?_, .check checked, .configuration cause⟩
      rw [ofSettings, checked]
      rfl
  | ok _ =>
      have sound := Settings.isSound_of_check checked
      have first : Attempt.reporting settings.check = .ok () := by rw [checked]; rfl
      rcases partition_cases settings.memory.totalBytes settings.memory.nodes.toNat
          settings.memory.interleave with ⟨cause, refused⟩ | ⟨descriptors, made, numbered⟩
      · refine .inr ⟨_, ?_, .partition checked refused, .configuration cause⟩
        simp only [ofSettings, first, Attempt.ok_bind, refused, Attempt.error_bind]
      · cases covered : verifyCoverage settings.memory.totalBytes descriptors with
        | error failure =>
            obtain ⟨cause, rfl⟩ := verifyCoverage_error sound.memory covered
            refine .inr ⟨_, ?_, .coverage checked made covered, .partition cause⟩
            simp only [ofSettings, first, Attempt.ok_bind, made, covered, Attempt.error_bind]
        | ok decoder =>
            refine .inl ⟨⟨settings, descriptors, decoder⟩, ?_, rfl, sound, checked, made, numbered,
              covered⟩
            simp only [ofSettings, first, Attempt.ok_bind, made, covered]
            rfl

namespace Partitioned

variable {settings : Settings} {partitioned : Partitioned}

/-- The first phase succeeds only when all of its checks do. -/
theorem isFor_of_ofSettings (made : ofSettings settings = .ok partitioned) :
    partitioned.IsFor settings := by
  rcases ofSettings_cases settings with ⟨other, same, isFor⟩ | ⟨error, refused, _⟩
  · cases made.symm.trans same
    exact isFor
  · cases made.symm.trans refused

theorem IsFor.passes (isFor : partitioned.IsFor settings) : settings.Passes :=
  ⟨_, _, isFor.checked, isFor.shared, isFor.covered⟩

/-- A configuration that passes the checks does not stop with one. -/
theorem not_stopsWith_of_passes (passes : settings.Passes) {error : BuildError} :
    ¬ settings.StopsWith error := by
  obtain ⟨descriptors, decoder, checked, shared, covered⟩ := passes
  rintro (refused | ⟨_, refused⟩ | ⟨_, same, refused⟩)
  · cases checked.symm.trans refused
  · cases shared.symm.trans refused
  · cases shared.symm.trans same
    cases covered.symm.trans refused

end Partitioned

end MemoryFabric

import MemoryFabric.Port.Ledger
import MemoryFabric.Proofs.SortedMap
import Mathlib.Data.List.Basic

/-!
# What a ledger records

A ledger records which ports are expected and which of them have been connected once.  As long as no port
is expected or connected a second time, every entry succeeds, and at the end the ledger is right when every
expected port has been connected.
-/

namespace MemoryFabric.WiringLedger

set_option autoImplicit false

/-- The ports that the ledger was told to expect. -/
def ports (ledger : WiringLedger) : List PortId := ledger.counts.keys

/-- The ledger expects some ports and has seen some of them connected once. -/
def Records (ledger : WiringLedger) (expected connected : List PortId) : Prop :=
  ∀ port, ledger.counts.get? port =
    if port ∈ expected then some (if port ∈ connected then 1 else 0) else none

variable {ledger : WiringLedger} {expected connected : List PortId} {port : PortId}

theorem records_empty : empty.Records [] [] := fun _ => rfl

theorem Records.expect (records : ledger.Records expected connected) (new : port ∉ expected)
    (unconnected : port ∉ connected) :
    ∃ after, ledger.expect port = (.ok (), after) ∧ after.Records (expected ++ [port]) connected := by
  have unknown : ledger.counts.contains port = false := by
    rw [SortedMap.contains, records port, if_neg new]
    rfl
  refine ⟨⟨ledger.counts.insert port 0⟩, ?_, fun other => ?_⟩
  · rw [WiringLedger.expect, unknown]
    rfl
  · rw [SortedMap.get?_insert]
    by_cases same : other = port
    · subst same
      simp [unconnected]
    · rw [if_neg same, records other]
      simp [same]

theorem Records.bind (records : ledger.Records expected connected) (known : port ∈ expected)
    (unconnected : port ∉ connected) :
    ∃ after, ledger.bind port = (.ok (), after) ∧ after.Records expected (connected ++ [port]) := by
  have count : ledger.counts.get? port = some 0 := by
    rw [records port, if_pos known, if_neg unconnected]
  refine ⟨⟨ledger.counts.insert port 1⟩, ?_, fun other => ?_⟩
  · rw [WiringLedger.bind, count]
    rfl
  · rw [SortedMap.get?_insert]
    by_cases same : other = port
    · subst same
      simp [known]
    · rw [if_neg same, records other]
      simp [same]

theorem verifyEntries_eq_ok_iff {entries : List (PortId × Nat)} :
    verifyEntries entries = .ok () ↔ ∀ entry ∈ entries, entry.2 = 1 := by
  induction entries with
  | nil => exact iff_of_true rfl nofun
  | cons entry rest ih =>
      rw [List.forall_mem_cons, ← ih, verifyEntries]
      split
      · next once => exact (and_iff_right once).symm
      · next other =>
          refine iff_of_false ?_ fun right => other right.1
          split
          · nofun
          · nofun

/-- A ledger is right when every port in it has been connected once. -/
theorem verify_eq_ok_iff :
    ledger.verify = .ok () ↔ ∀ port count, ledger.counts.get? port = some count → count = 1 := by
  rw [WiringLedger.verify, verifyEntries_eq_ok_iff, Prod.forall]
  exact forall₂_congr fun port count => imp_congr_left SortedMap.mem_toList_iff

section Complete

variable (records : ledger.Records expected connected)
  (complete : ∀ port ∈ expected, port ∈ connected)

include records complete in
theorem Records.once : ∀ entry ∈ ledger.counts.toList, entry.2 = 1 := by
  rintro ⟨port, count⟩ member
  have found := SortedMap.mem_toList_iff.1 member
  rw [records port] at found
  split at found
  · next known =>
      rw [if_pos (complete port known)] at found
      cases found
      rfl
  · cases found

include records complete in
theorem Records.verify : ledger.verify = .ok () :=
  verifyEntries_eq_ok_iff.2 (records.once complete)

include records in
theorem Records.mem_ports : port ∈ ledger.ports ↔ port ∈ expected := by
  rw [ports, SortedMap.mem_keys_iff, SortedMap.contains, records port]
  split
  · next known => simp [known]
  · next unknown => simp [unknown]

include records in
theorem Records.allocatedCount (distinct : expected.Nodup) :
    ledger.allocatedCount = expected.length := by
  refine SortedMap.size_eq_length distinct fun port => ?_
  rw [← SortedMap.mem_keys_iff]
  exact records.mem_ports.symm

include records complete in
theorem Records.connectedCount (distinct : expected.Nodup) :
    ledger.connectedCount = expected.length := by
  rw [← records.allocatedCount distinct, WiringLedger.connectedCount, WiringLedger.allocatedCount,
    SortedMap.size]
  refine List.countP_eq_length.2 fun entry member => ?_
  rw [records.once complete entry member]
  rfl

end Complete

end MemoryFabric.WiringLedger

import MemoryFabric.Proofs.Fabric.Yields
import MemoryFabric.Proofs.Port.Record

/-!
# What a wiring yields

A wiring that is run with a ledger is a build, so it yields what the build does.  The rules for the steps of
a wiring follow from those for builds.  A connection succeeds when both of its ports are expected and free
in the ledger, and both ends are free at the host; it appends one link to the graph.
-/

namespace MemoryFabric

set_option autoImplicit false

/-- The end of a link at a terminal. -/
def Terminal.linkEnd (terminal : Terminal) (latency : Latency) : LinkEnd :=
  ⟨terminal.component, terminal.id.port, latency⟩

namespace Wiring

/-- With the ledger, and on every recorder with the graph `before`, the wiring comes to a result. -/
def Yields {α : Type} (wiring : Wiring α) (cost : Nat) (ledger : WiringLedger)
    (before : ComponentGraph) (result : α → WiringLedger → ComponentGraph → Prop) : Prop :=
  (wiring.runWith ledger).Yields cost before fun value graph => result value.1 value.2 graph

/-- A wiring goes on after its first step when that step has a value. -/
theorem runWith_bind {α β : Type} (wiring : Wiring α) (rest : α → Wiring β) (ledger : WiringLedger) :
    (wiring >>= rest).runWith ledger =
      wiring.runWith ledger >>= fun value => (rest value.1).runWith value.2 := by
  have first : (wiring >>= rest).run ledger = (wiring.run ledger).bind fun entry =>
      ExceptT.bindCont rest entry.1 entry.2 := rfl
  have left : ((wiring >>= rest).runWith ledger).run = ((wiring >>= rest).run ledger).bind fun entry =>
      .done (entry.1.map fun value => (value, entry.2)) := rfl
  have right : (wiring.runWith ledger >>= fun value => (rest value.1).runWith value.2).run =
      ((wiring.run ledger).bind fun entry => .done (entry.1.map fun value => (value, entry.2))).bind
        (ExceptT.bindCont fun value => (rest value.1).runWith value.2) := rfl
  refine ExceptT.ext ?_
  rw [left, first, right]
  generalize wiring.run ledger = script
  induction script with
  | done entry =>
      obtain ⟨result, after⟩ := entry
      cases result <;> rfl
  | step command next ih => exact congrArg (Script.step command) (funext ih)

/-- A build leaves the ledger as it is. -/
theorem runWith_ofBuild {α : Type} (build : Build α) (ledger : WiringLedger) :
    (ofBuild build).runWith ledger = build >>= fun value => pure (value, ledger) := by
  have left : ((ofBuild build).runWith ledger).run =
      (build.run.bind fun result => .done (result, ledger)).bind fun entry =>
        .done (entry.1.map fun value => (value, entry.2)) := rfl
  have right : (build >>= fun value => pure (value, ledger) : Build (α × WiringLedger)).run =
      build.run.bind (ExceptT.bindCont fun value => pure (value, ledger)) := rfl
  refine ExceptT.ext ?_
  rw [left, right]
  generalize build.run = script
  induction script with
  | done result => cases result <;> rfl
  | step command next ih => exact congrArg (Script.step command) (funext ih)

/-! ## Rules -/

namespace Yields

variable {α β : Type} {wiring : Wiring α} {cost less : Nat} {ledger : WiringLedger}
  {before : ComponentGraph} {result middle : α → WiringLedger → ComponentGraph → Prop}

theorem weaken (yields : wiring.Yields less ledger before middle) (le : less ≤ cost)
    (implies : ∀ value after graph, middle value after graph → result value after graph) :
    wiring.Yields cost ledger before result :=
  Build.Yields.weaken yields le fun value graph => implies value.1 value.2 graph

theorem pure (value : α) (cost : Nat) (ledger : WiringLedger) (before : ComponentGraph) :
    (Pure.pure value : Wiring α).Yields cost ledger before fun given after graph =>
      given = value ∧ after = ledger ∧ graph = before := by
  refine (Build.Yields.pure (value, ledger) cost before).weaken (Nat.le_refl cost) ?_
  rintro _ _ ⟨rfl, rfl⟩
  exact ⟨rfl, rfl, rfl⟩

/-- **One wiring after another takes the room of both.** -/
theorem bind {rest : α → Wiring β} {result : β → WiringLedger → ComponentGraph → Prop}
    (first : wiring.Yields less ledger before middle) (le : less ≤ cost)
    (second : ∀ value after graph, middle value after graph →
      (rest value).Yields (cost - less) after graph result) :
    (wiring >>= rest).Yields cost ledger before result := by
  rw [Yields, runWith_bind]
  exact Build.Yields.bind first le fun value graph => second value.1 value.2 graph

theorem ofBuild {build : Build α} {result : α → ComponentGraph → Prop}
    (yields : build.Yields cost before result) :
    (Wiring.ofBuild build).Yields cost ledger before fun value after graph =>
      after = ledger ∧ result value graph := by
  rw [Yields, runWith_ofBuild]
  refine yields.bind (Nat.le_refl cost) fun value graph holds => ?_
  refine (Build.Yields.pure _ _ _).weaken (Nat.le_refl _) ?_
  rintro _ _ ⟨rfl, rfl⟩
  exact ⟨rfl, holds⟩

/-- An entry that the ledger takes. -/
theorem ofLedger {change : WiringLedger → Except BuildError Unit × WiringLedger}
    {after : WiringLedger} (changed : change ledger = (.ok (), after)) :
    (Wiring.ofLedger change).Yields 0 ledger before fun _ given graph =>
      given = after ∧ graph = before := by
  have run : (Wiring.ofLedger change).runWith ledger = Pure.pure ((), after) := by
    have step : (Wiring.ofLedger change).runWith ledger =
        ExceptT.mk (.done ((Attempt.reporting (change ledger).1).map fun value =>
          (value, (change ledger).2))) := rfl
    rw [step, changed]
    rfl
  rw [Yields, run]
  refine (Build.Yields.pure ((), after) 0 before).weaken (Nat.le_refl 0) ?_
  rintro _ _ ⟨rfl, rfl⟩
  exact ⟨rfl, rfl⟩

end Yields

/-! ## Ports -/

section Ports

variable {ledger : WiringLedger} {before : ComponentGraph} {expected connected : List PortId}

/-- A single port is expected. -/
theorem yields_expect {port : PortId} (records : ledger.Records expected [])
    (new : port ∉ expected) :
    (expect port).Yields 0 ledger before fun _ after graph =>
      after.Records (expected ++ [port]) [] ∧ graph = before := by
  obtain ⟨after, entered, records⟩ := records.expect new List.not_mem_nil
  refine (@Yields.ofLedger _ _ (fun ledger => ledger.expect port) _ entered).weaken (Nat.le_refl 0) ?_
  rintro _ _ _ ⟨rfl, rfl⟩
  exact ⟨records, rfl⟩

/-- **Ports that are new and distinct can all be expected.** -/
theorem yields_expectAll {ports : List PortId} (records : ledger.Records expected [])
    (distinct : (expected ++ ports).Nodup) :
    (expectAll ports).Yields 0 ledger before fun _ after graph =>
      after.Records (expected ++ ports) [] ∧ graph = before := by
  induction ports generalizing ledger expected with
  | nil =>
      refine (Yields.pure _ _ _ _).weaken (Nat.le_refl 0) ?_
      rintro _ _ _ ⟨rfl, rfl, rfl⟩
      rw [List.append_nil]
      exact ⟨records, rfl⟩
  | cons port rest ih =>
      have new : port ∉ expected := fun known =>
        (List.disjoint_of_nodup_append distinct) known List.mem_cons_self
      rw [List.append_cons] at distinct ⊢
      refine (yields_expect records new).bind (Nat.le_refl 0) ?_
      rintro _ after graph ⟨records, rfl⟩
      exact ih records distinct

/-- The entry of an expected port that has not been connected. -/
theorem yields_bind {port : PortId} (records : ledger.Records expected connected)
    (known : port ∈ expected) (unconnected : port ∉ connected) :
    (bind port).Yields 0 ledger before fun _ after graph =>
      after.Records expected (connected ++ [port]) ∧ graph = before := by
  obtain ⟨after, entered, records⟩ := records.bind known unconnected
  refine (Yields.ofLedger entered).weaken (Nat.le_refl 0) ?_
  rintro _ _ _ ⟨rfl, rfl⟩
  exact ⟨records, rfl⟩

/-- At the end every expected port has been connected. -/
theorem yields_verify (records : ledger.Records expected connected)
    (complete : ∀ port ∈ expected, port ∈ connected) :
    verify.Yields 0 ledger before fun _ after graph => after = ledger ∧ graph = before :=
  Yields.ofLedger (by rw [records.verify complete])

/-- **Two free ports are connected by a new link.** -/
theorem yields_connect {name : String} {a b : Terminal} (latency : Latency)
    {first second : Component} (opened : before.isFinalized = false)
    (fresh : before.linkByName.contains name = false)
    (a_found : before.component? a.component = some first)
    (b_found : before.component? b.component = some second)
    (different : (a.linkEnd latency).componentPort ≠ (b.linkEnd latency).componentPort)
    (a_free : before.linkByPort.contains (a.linkEnd latency).componentPort = false)
    (b_free : before.linkByPort.contains (b.linkEnd latency).componentPort = false)
    (records : ledger.Records expected connected) (known : ∀ port ∈ [a.id, b.id], port ∈ expected)
    (distinct : (connected ++ [a.id, b.id]).Nodup) :
    (connect name a b latency).Yields 0 ledger before fun _ after graph =>
      after.Records expected (connected ++ [a.id, b.id]) ∧
        graph = before.join ⟨name, a.linkEnd latency, b.linkEnd latency⟩ := by
  have a_new : a.id ∉ connected := fun old =>
    (List.disjoint_of_nodup_append distinct) old (by simp)
  have b_new : b.id ∉ connected ++ [a.id] := fun old => by
    rw [List.append_cons] at distinct
    exact (List.disjoint_of_nodup_append distinct) old (by simp)
  refine (yields_bind records (known a.id (by simp)) a_new).bind (Nat.le_refl 0) ?_
  rintro _ between graph ⟨records, rfl⟩
  refine (yields_bind records (known b.id (by simp)) b_new).bind (Nat.le_refl 0) ?_
  rintro _ after graph ⟨records, rfl⟩
  rw [List.append_assoc] at records
  have linked : (Build.createLink name >>= fun link => Build.connect link (a.linkEnd latency)
      (b.linkEnd latency)).Yields 0 graph fun _ after =>
        after = graph.join ⟨name, a.linkEnd latency, b.linkEnd latency⟩ := by
    refine (Build.yields_createLink (ComponentGraph.createLink_of_fresh opened fresh)).bind
      (Nat.le_refl 0) ?_
    rintro _ _ ⟨rfl, rfl⟩
    exact Build.yields_connect (ComponentGraph.connect_withOpenLink opened a_found b_found different
      a_free b_free)
  refine (Yields.ofBuild linked).weaken (Nat.le_refl 0) ?_
  rintro _ _ _ ⟨rfl, rfl⟩
  exact ⟨records, rfl⟩

end Ports

end Wiring

end MemoryFabric

import MemoryFabric.Proofs.Port.Record
import Mathlib.Data.List.Induction

/-!
# The history of a ledger

A ledger is told which ports to expect and which ports have been connected, in any order, and it goes on
after a call that fails.  The calls alone tell what it holds (`get?_after`): every port that has been expected,
with the number of its connections since it was expected for the last time.

So a port that is expected again loses the connections that it had, although that call fails.  The ledger
counts all connections, accepts one for each port, and is right at the end when there was one for each port
(`CountsFaithfully`), exactly on the runs that expect no port again after connecting it
(**`countsFaithfully_iff`**).
-/

namespace MemoryFabric.WiringLedger

set_option autoImplicit false

/-! ## Calls one after another -/

/-- What a ledger can be told. -/
inductive Call where
  | expect (port : PortId)
  | bind (port : PortId)
  deriving DecidableEq, Repr

/-- The answer to a call. -/
def answer (ledger : WiringLedger) : Call → Except BuildError Unit × WiringLedger
  | .expect port => ledger.expect port
  | .bind port => ledger.bind port

/-- The ledger after calls, whatever it answers to them. -/
def after (ledger : WiringLedger) (calls : List Call) : WiringLedger :=
  calls.foldl (fun ledger call => (ledger.answer call).2) ledger

/-- The calls of a run that succeed. -/
def accepted (ledger : WiringLedger) : List Call → List Call
  | [] => []
  | call :: rest =>
    let later := (ledger.answer call).2.accepted rest
    if (ledger.answer call).1.isOk then call :: later else later

variable {ledger : WiringLedger} {calls earlier later : List Call} {call : Call} {port : PortId}

theorem after_append : ledger.after (earlier ++ later) = (ledger.after earlier).after later :=
  List.foldl_append

theorem accepted_append :
    ledger.accepted (earlier ++ later) =
      ledger.accepted earlier ++ (ledger.after earlier).accepted later := by
  induction earlier generalizing ledger with
  | nil => rfl
  | cons call rest ih =>
      have step : ledger.after (call :: rest) = (ledger.answer call).2.after rest := rfl
      rw [List.cons_append, accepted, accepted, ih, step]
      split
      · rfl
      · rfl

/-- What a call does to the count of a port. -/
theorem get?_answer :
    (ledger.answer call).2.counts.get? port =
      if call = .expect port then some 0
      else if call = .bind port then (ledger.counts.get? port).map (· + 1)
      else ledger.counts.get? port := by
  cases call with
  | expect other =>
      simp only [answer, expect, SortedMap.get?_insert, Call.expect.injEq, reduceCtorEq, if_false,
        eq_comm (a := port)]
  | bind other =>
      simp only [answer, bind, Call.bind.injEq, reduceCtorEq, if_false]
      by_cases same : other = port
      · subst same
        cases found : ledger.counts.get? other with
        | none => simp [found]
        | some count => simp [SortedMap.get?_insert]
      · rw [if_neg same]
        cases ledger.counts.get? other with
        | none => rfl
        | some count => simp [SortedMap.get?_insert, Ne.symm same]

/-! ## Connections in a run -/

/-- How often a port has been connected since it was expected for the first time. -/
def connections (port : PortId) (calls : List Call) : Nat :=
  (calls.dropWhile (· ≠ .expect port)).count (.bind port)

/-- How often a port has been connected since it was expected for the last time. -/
def latestConnections (port : PortId) (calls : List Call) : Nat :=
  (calls.reverse.takeWhile (· ≠ .expect port)).count (.bind port)

/-- No port is expected, connected and expected again. -/
def NeverExpectsAgain (calls : List Call) : Prop :=
  ∀ port, ¬ List.Sublist [.expect port, .bind port, .expect port] calls

theorem connections_concat :
    connections port (calls ++ [call]) =
      connections port calls + if call = .bind port ∧ .expect port ∈ calls then 1 else 0 := by
  induction calls with
  | nil =>
      by_cases expected : call = .expect port
      · subst expected
        simp [connections]
      · simp [connections, expected]
  | cons first rest ih =>
      by_cases expected : first = .expect port
      · subst expected
        simp [connections, List.count_singleton]
      · have skip : ∀ later, connections port (first :: later) = connections port later := by
          intro later
          simp [connections, expected]
        rw [List.cons_append, skip, skip, ih]
        simp [Ne.symm expected]

theorem latestConnections_concat :
    latestConnections port (calls ++ [call]) =
      if call = .expect port then 0
      else latestConnections port calls + if call = .bind port then 1 else 0 := by
  rw [latestConnections, List.reverse_append, List.reverse_singleton, List.singleton_append,
    List.takeWhile_cons]
  by_cases expected : call = .expect port
  · simp [expected]
  · simp only [expected, ne_eq, not_false_eq_true, decide_true, if_true, if_false, List.count_cons,
      beq_iff_eq]
    rfl

/-- A port has been connected when a connection comes behind an expectation. -/
theorem connections_pos_iff :
    0 < connections port calls ↔ List.Sublist [.expect port, .bind port] calls := by
  induction calls with
  | nil => simp [connections]
  | cons first rest ih =>
      rw [List.cons_sublist_cons']
      by_cases expected : first = .expect port
      · subst expected
        have counted : connections port (.expect port :: rest) = rest.count (.bind port) := by
          simp [connections]
        rw [counted, List.count_pos_iff, List.singleton_sublist]
        exact ⟨fun member => .inr ⟨rfl, member⟩, fun found => found.elim
          (fun pair => pair.subset (by simp)) And.right⟩
      · have skip : connections port (first :: rest) = connections port rest := by
          simp [connections, expected]
        rw [skip, ih]
        exact (or_iff_left fun same => expected same.1.symm).symm

theorem neverExpectsAgain_concat :
    NeverExpectsAgain (calls ++ [call]) ↔
      NeverExpectsAgain calls ∧ ∀ port, call = .expect port → connections port calls = 0 := by
  have last : ∀ port, List.Sublist [.expect port, .bind port, .expect port] (calls ++ [call]) ↔
      List.Sublist [.expect port, .bind port, .expect port] calls ∨
        call = .expect port ∧ 0 < connections port calls := by
    intro port
    have before := @List.reverse_sublist _ [.expect port, .bind port, .expect port] calls
    have pair := @List.reverse_sublist _ [.expect port, .bind port] calls
    rw [connections_pos_iff, ← before, ← pair, ← List.reverse_sublist, List.reverse_append,
      eq_comm (a := call)]
    exact List.cons_sublist_cons'
  simp only [NeverExpectsAgain, last, not_or, not_and, Nat.not_lt, Nat.le_zero, forall_and]

/-- As long as no port is expected again all connections are recent. -/
theorem latestConnections_eq (never : NeverExpectsAgain calls) (expected : .expect port ∈ calls) :
    latestConnections port calls = connections port calls := by
  induction calls using List.reverseRecOn with
  | nil => cases expected
  | append_singleton calls call ih =>
      obtain ⟨never, last⟩ := neverExpectsAgain_concat.1 never
      rw [latestConnections_concat, connections_concat]
      by_cases again : call = .expect port
      · simp [again, last port again]
      · have known : .expect port ∈ calls := by simpa [Ne.symm again] using expected
        simp only [again, if_false, ih never known, known, and_true]

/-! ## What a ledger holds -/

/-- **A ledger holds the expected ports with their connections since they were expected for the last time.** -/
theorem get?_after (port : PortId) (calls : List Call) :
    (empty.after calls).counts.get? port =
      if .expect port ∈ calls then some (latestConnections port calls) else none := by
  induction calls using List.reverseRecOn with
  | nil => rfl
  | append_singleton calls call ih =>
      have step : (empty.after calls).after [call] = ((empty.after calls).answer call).2 := rfl
      rw [after_append, step, get?_answer, ih, latestConnections_concat]
      by_cases again : call = .expect port
      · simp [again]
      · by_cases known : .expect port ∈ calls
        · by_cases bound : call = .bind port
          · simp [bound, known]
          · simp [again, bound, known]
        · simp [again, known, Ne.symm again]

/-- A connection is accepted when it is the first one since the port was expected for the last time. -/
theorem bind_isOk_iff (port : PortId) (calls : List Call) :
    ((empty.after calls).bind port).1.isOk = true ↔
      .expect port ∈ calls ∧ latestConnections port calls = 0 := by
  rw [bind, get?_after]
  by_cases known : .expect port ∈ calls
  · by_cases first : latestConnections port calls = 0
    · simp [known, first, Except.isOk, Except.toBool]
    · simp [known, first, Except.isOk, Except.toBool]
  · simp [known, Except.isOk, Except.toBool]

/-- A ledger is right when every expected port has been connected once since it was expected for the last
time. -/
theorem verify_after_iff (calls : List Call) :
    (empty.after calls).verify = .ok () ↔
      ∀ port, .expect port ∈ calls → latestConnections port calls = 1 := by
  simp only [verify_eq_ok_iff, get?_after]
  refine forall_congr' fun port => ⟨fun once known => once _ (if_pos known), fun once count found => ?_⟩
  split at found
  · next known =>
      cases found
      exact once known
  · cases found

/-- A port that is expected again is refused. -/
theorem expect_isOk_iff (port : PortId) (calls : List Call) :
    ((empty.after calls).expect port).1.isOk = true ↔ .expect port ∉ calls := by
  rw [expect, SortedMap.contains, get?_after]
  by_cases known : .expect port ∈ calls
  · simp [known, Except.isOk, Except.toBool]
  · simp [known, Except.isOk, Except.toBool]

/-! ## Faithful ledgers -/

/-- A ledger counts the connections of a run faithfully. -/
structure CountsFaithfully (calls : List Call) : Prop where
  /-- Expecting a port without success leaves the ledger as it is. -/
  refused_expect : ∀ earlier port later, earlier ++ .expect port :: later = calls →
    ((empty.after earlier).expect port).1.isOk = false →
      ((empty.after earlier).expect port).2 = empty.after earlier
  /-- At most one connection of a port succeeds. -/
  bound_once : ∀ port, (empty.accepted calls).count (.bind port) ≤ 1
  /-- At the end every port that was ever expected must have been connected once after that. -/
  verify_iff : (empty.after calls).verify = .ok () ↔
    ∀ port, .expect port ∈ calls → connections port calls = 1

theorem NeverExpectsAgain.of_append (never : NeverExpectsAgain (earlier ++ later)) :
    NeverExpectsAgain earlier :=
  fun port again => never port (again.trans (List.sublist_append_left earlier later))

/-- As long as no port is expected again the first connection of every port succeeds and no other. -/
theorem count_accepted (never : NeverExpectsAgain calls) (port : PortId) :
    (empty.accepted calls).count (.bind port) = min 1 (connections port calls) := by
  induction calls using List.reverseRecOn with
  | nil => rfl
  | append_singleton calls call ih =>
      have before := never.of_append
      rw [accepted_append, List.count_append, ih before, connections_concat]
      by_cases bound : call = .bind port
      · subst bound
        have succeeds := bind_isOk_iff port calls
        by_cases known : .expect port ∈ calls
        · rw [latestConnections_eq before known] at succeeds
          by_cases first : connections port calls = 0
          · simp [accepted, answer, succeeds, known, first]
          · have more : min 1 (connections port calls) = 1 := by omega
            simp [accepted, answer, succeeds, known, first, more]
        · simp [accepted, answer, succeeds, known]
      · have other : ((empty.after calls).accepted [call]).count (.bind port) = 0 := by
          rw [List.count_eq_zero, accepted]
          split
          · simpa [accepted] using Ne.symm bound
          · simp [accepted]
        simp [other, bound]

/-- A call that expects a port again takes its connections away.  So where it leaves the ledger as it is there
are none. -/
theorem connections_eq_zero_of_refused_expect (never : NeverExpectsAgain calls)
    (same : ((empty.after calls).expect port).1.isOk = false →
      ((empty.after calls).expect port).2 = empty.after calls) :
    connections port calls = 0 := by
  by_cases known : .expect port ∈ calls
  · have refused : ((empty.after calls).expect port).1.isOk = false := by
      rw [← Bool.not_eq_true, expect_isOk_iff]
      exact not_not_intro known
    have reset : ((empty.after calls).expect port).2.counts.get? port = some 0 := by
      rw [show ((empty.after calls).expect port).2 = ((empty.after calls).answer (.expect port)).2 from
        rfl, get?_answer, if_pos rfl]
    rw [same refused, get?_after, if_pos known, latestConnections_eq never known] at reset
    exact Option.some.inj reset
  · refine Nat.eq_zero_of_not_pos fun connected => known ?_
    exact (connections_pos_iff.1 connected).subset List.mem_cons_self

/-- A port that has not been connected can be expected again: that call fails and changes nothing. -/
theorem refused_expect_of_connections (never : NeverExpectsAgain calls)
    (unconnected : connections port calls = 0)
    (refused : ((empty.after calls).expect port).1.isOk = false) :
    ((empty.after calls).expect port).2 = empty.after calls := by
  have known : .expect port ∈ calls := by
    rw [← Bool.not_eq_true, expect_isOk_iff] at refused
    exact not_not.1 refused
  have zero : (empty.after calls).counts.get? port = some 0 := by
    rw [get?_after, if_pos known, latestConnections_eq never known, unconnected]
  refine congrArg WiringLedger.mk (SortedMap.ext_get? fun other => ?_)
  rw [SortedMap.get?_insert]
  split
  · next same =>
      rw [same]
      exact zero.symm
  · rfl

/-- **A ledger counts faithfully exactly when no port is expected again after it has been connected.** -/
theorem countsFaithfully_iff (calls : List Call) : CountsFaithfully calls ↔ NeverExpectsAgain calls := by
  constructor
  · intro faithful
    have refused := faithful.refused_expect
    clear faithful
    -- Refusals before the last call are refusals of the whole run, so that only the last call is left.
    induction calls using List.reverseRecOn with
    | nil => exact fun port again => nomatch again
    | append_singleton calls call ih =>
        have never : NeverExpectsAgain calls := by
          refine ih fun earlier port later split => ?_
          exact refused earlier port (later ++ [call]) (by rw [← split]; simp)
        refine neverExpectsAgain_concat.2 ⟨never, ?_⟩
        rintro port rfl
        exact connections_eq_zero_of_refused_expect never (refused calls port [] rfl)
  · intro never
    refine ⟨?_, fun port => ?_, ?_⟩
    · rintro earlier port later rfl
      rw [← List.singleton_append, ← List.append_assoc] at never
      obtain ⟨never, last⟩ := neverExpectsAgain_concat.1 never.of_append
      exact refused_expect_of_connections never (last port rfl)
    · rw [count_accepted never]
      exact Nat.min_le_left 1 _
    · rw [verify_after_iff]
      exact forall₂_congr fun port known => by rw [latestConnections_eq never known]

/-- A port is expected, connected, expected again and connected again: both connections succeed, and the ledger
is right in the end. -/
theorem not_countsFaithfully_expected_again : ∃ port calls,
    calls = [.expect port, .bind port, .expect port, .bind port] ∧
      connections port calls = 2 ∧ (empty.accepted calls).count (.bind port) = 2 ∧
        (empty.after calls).verify = .ok () ∧ ¬ CountsFaithfully calls := by
  refine ⟨⟨"n", "a"⟩, _, rfl, by decide +kernel, by decide +kernel, rfl, fun faithful => ?_⟩
  have once := faithful.bound_once ⟨"n", "a"⟩
  revert once
  decide +kernel

end MemoryFabric.WiringLedger

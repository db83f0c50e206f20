import MemoryFabric.Word

/-!
# Steps of computations that may stop

A computation in steps gives a value exactly when every step does.  The lemmas here take such a
computation apart step by step, and say when the checked word operations have a result.
-/

namespace MemoryFabric

set_option autoImplicit false

/-! ## Steps -/

namespace Attempt

variable {ε δ α β : Type}

@[simp]
theorem ok_bind {value : α} {rest : α → Except ε β} : (.ok value : Except ε α) >>= rest = rest value :=
  rfl

@[simp]
theorem error_bind {error : ε} {rest : α → Except ε β} :
    (.error error : Except ε α) >>= rest = .error error :=
  rfl

theorem bind_eq_ok_iff {first : Except ε α} {rest : α → Except ε β} {value : β} :
    first >>= rest = .ok value ↔ ∃ middle, first = .ok middle ∧ rest middle = .ok value := by
  cases first <;> simp [bind, Except.bind]

theorem bind_eq_error_iff {first : Except ε α} {rest : α → Except ε β} {error : ε} :
    first >>= rest = .error error ↔
      first = .error error ∨ ∃ middle, first = .ok middle ∧ rest middle = .error error := by
  cases first <;> simp [bind, Except.bind]

theorem pure_eq_ok_iff {value result : α} :
    (pure value : Except ε α) = .ok result ↔ value = result := by
  simp [pure, Except.pure]

/-- A check that passes lets the computation go on. -/
theorem guard_eq_ok_iff {fails : Prop} [Decidable fails] {error : ε} {skipped : Unit → Except ε α}
    {rest : Except ε α} {value : α} :
    (if fails then (throw error : Except ε Unit) >>= skipped else rest) = .ok value ↔
      ¬ fails ∧ rest = .ok value := by
  split
  · next holds => exact ⟨nofun, fun accepted => absurd holds accepted.1⟩
  · next passes => exact ⟨fun accepted => ⟨passes, accepted⟩, And.right⟩

@[simp]
theorem mapError_ok {change : ε → δ} {value : α} :
    (.ok value : Except ε α).mapError change = .ok value := rfl

@[simp]
theorem mapError_error {change : ε → δ} {error : ε} :
    (.error error : Except ε α).mapError change = .error (change error) := rfl

theorem mapError_eq_ok_iff {change : ε → δ} {result : Except ε α} {value : α} :
    result.mapError change = .ok value ↔ result = .ok value := by
  cases result <;> simp

theorem map_eq_ok_iff {change : α → β} {result : Except ε α} {value : β} :
    result.map change = .ok value ↔ ∃ former, result = .ok former ∧ change former = value := by
  cases result <;> simp [Except.map]

theorem mapError_eq_error_iff {change : ε → δ} {result : Except ε α} {error : δ} :
    result.mapError change = .error error ↔ ∃ cause, result = .error cause ∧ change cause = error := by
  cases result <;> simp

@[simp]
theorem report_ne_ok {error : ε} {value : α} : (report error : Attempt ε α) ≠ .ok value := by
  simp [report]

@[simp]
theorem checked_eq_ok_iff {result : Except Fault α} {value : α} :
    (checked result : Attempt ε α) = .ok value ↔ result = .ok value := by
  cases result <;> simp [checked]

@[simp]
theorem reporting_eq_ok_iff {result : Except ε α} {value : α} :
    reporting result = .ok value ↔ result = .ok value := by
  cases result <;> simp [reporting]

@[simp]
theorem reporting_eq_error_iff {result : Except ε α} {failure : Failure ε} :
    reporting result = .error failure ↔ ∃ error, result = .error error ∧ .reported error = failure := by
  cases result <;> simp [reporting]

end Attempt

/-! ## Words -/

namespace Word

theorem toNat_ofNat {n : Nat} (fits : n < count) : (UInt64.ofNat n).toNat = n :=
  UInt64.toNat_ofNat_of_lt' fits

theorem fit_of_lt {n : Nat} (fits : n < count) : fit n = .ok (UInt64.ofNat n) := by
  simp [fit, fits]

theorem mul_of_lt {a b : UInt64} (fits : a.toNat * b.toNat < count) :
    mul a b = .ok (UInt64.ofNat (a.toNat * b.toNat)) :=
  fit_of_lt fits

theorem mul_ofNat {factor : Nat} {word : UInt64} (factor_fits : factor < count)
    (product_fits : factor * word.toNat < count) :
    mul (UInt64.ofNat factor) word = .ok (UInt64.ofNat (factor * word.toNat)) := by
  have factor_toNat := toNat_ofNat factor_fits
  rw [mul_of_lt (by rwa [factor_toNat]), factor_toNat]

theorem add_of_lt {a b : UInt64} (fits : a.toNat + b.toNat < count) :
    add a b = .ok (UInt64.ofNat (a.toNat + b.toNat)) :=
  fit_of_lt fits

theorem toNat_pos {a : UInt64} (nonzero : a ≠ 0) : 0 < a.toNat :=
  Nat.pos_of_ne_zero fun zero => nonzero (UInt64.toNat_inj.1 zero)

theorem sub_one_of_ne_zero {a : UInt64} (nonzero : a ≠ 0) : sub a 1 = .ok (a - 1) :=
  sub_of_le (UInt64.le_iff_toNat_le.2 (toNat_pos nonzero))

theorem toNat_sub_one {a : UInt64} (nonzero : a ≠ 0) : (a - 1).toNat = a.toNat - 1 :=
  UInt64.toNat_sub_of_le _ _ (UInt64.le_iff_toNat_le.2 (toNat_pos nonzero))

/-- Nothing wraps in front of a word. -/
theorem toNat_wrappingSucc {a bound : UInt64} (below : a < bound) :
    (wrappingSucc a).toNat = a.toNat + 1 := by
  have fits : a.toNat + 1 < count :=
    Nat.lt_of_le_of_lt (UInt64.lt_iff_toNat_lt.1 below) (toNat_lt_count bound)
  simp only [wrappingSucc, UInt64.toNat_add]
  exact Nat.mod_eq_of_lt fits

end Word

end MemoryFabric

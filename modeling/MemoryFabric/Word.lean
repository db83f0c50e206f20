import MemoryFabric.Fault

/-!
# Machine words

Sizes, addresses and latencies are 64-bit words.  Arithmetic on them is checked: a result that does not
fit is a fault, never a silent wrap.  The two places where a different rule is wanted name it, as
`saturatingMul` and `wrappingSucc` do.
-/

namespace MemoryFabric.Word

set_option autoImplicit false

/-- The number of words. -/
def count : Nat := 0x10000000000000000

/-- The largest word. -/
def greatest : UInt64 := UInt64.ofNat (count - 1)

/-- A natural number as a word, when it fits. -/
def ofNat? (n : Nat) : Option UInt64 :=
  if n < count then some (UInt64.ofNat n) else none

/-- A natural number as a word; a fault when it does not fit. -/
def fit (n : Nat) : Except Fault UInt64 :=
  if n < count then .ok (UInt64.ofNat n) else .error .overflow

/-- Checked sum. -/
def add (a b : UInt64) : Except Fault UInt64 := fit (a.toNat + b.toNat)

/-- Checked difference. -/
def sub (a b : UInt64) : Except Fault UInt64 :=
  if b ≤ a then .ok (a - b) else .error .overflow

/-- Checked product. -/
def mul (a b : UInt64) : Except Fault UInt64 := fit (a.toNat * b.toNat)

/-- Checked quotient. -/
def div (a b : UInt64) : Except Fault UInt64 :=
  if b = 0 then .error .divisionByZero else .ok (a / b)

/-- Checked remainder. -/
def rem (a b : UInt64) : Except Fault UInt64 :=
  if b = 0 then .error .divisionByZero else .ok (a % b)

/-- The product, or the largest word when it does not fit. -/
def saturatingMul (a b : UInt64) : UInt64 :=
  if a.toNat * b.toNat < count then a * b else greatest

/-- The next word, or the largest word after itself. -/
def saturatingSucc (a : UInt64) : UInt64 :=
  if a = greatest then a else a + 1

/-- The next word; zero follows the largest. -/
def wrappingSucc (a : UInt64) : UInt64 := a + 1

/-! ## Laws -/

theorem toNat_lt_count (a : UInt64) : a.toNat < count := a.toNat_lt

theorem fit_eq_ok_iff {n : Nat} {a : UInt64} : fit n = .ok a ↔ n = a.toNat := by
  unfold fit
  constructor
  · intro h
    split at h
    · next fits =>
      cases h
      simp only [count] at fits
      simp [UInt64.toNat_ofNat_of_lt' fits]
    · cases h
  · rintro rfl
    simp [toNat_lt_count a]

theorem add_eq_ok_iff {a b c : UInt64} : add a b = .ok c ↔ a.toNat + b.toNat = c.toNat :=
  fit_eq_ok_iff

theorem mul_eq_ok_iff {a b c : UInt64} : mul a b = .ok c ↔ a.toNat * b.toNat = c.toNat :=
  fit_eq_ok_iff

theorem sub_of_le {a b : UInt64} (h : b ≤ a) : sub a b = .ok (a - b) := by
  simp [sub, h]

theorem div_of_ne_zero {a b : UInt64} (h : b ≠ 0) : div a b = .ok (a / b) := by
  simp [div, h]

theorem rem_of_ne_zero {a b : UInt64} (h : b ≠ 0) : rem a b = .ok (a % b) := by
  simp [rem, h]

end MemoryFabric.Word

import MemoryFabric.SortedMap

/-!
# Component parameters

A host takes the parameters of a component as a map from names to values.  A value is an integer, a text or
a list of values; whether an integer can be negative belongs to the value.
-/

namespace MemoryFabric

set_option autoImplicit false

/-- The value of a parameter. -/
inductive Parameter where
  | signed (value : Int64)
  | unsigned (value : UInt64)
  | text (value : String)
  | list (values : List Parameter)
  deriving Repr, Inhabited

namespace Parameter

/-- Numbers as decimal digits, texts as they are, lists between square brackets. -/
def written : Parameter → String
  | .signed value => toString value.toInt
  | .unsigned value => toString value.toNat
  | .text value => value
  | .list values => "[" ++ String.intercalate ", " (values.map written) ++ "]"

mutual

/-- Equality of parameters is decidable. -/
def decEq : (a b : Parameter) → Decidable (a = b)
  | .signed a, .signed b => decidable_of_iff (a = b) (by simp)
  | .unsigned a, .unsigned b => decidable_of_iff (a = b) (by simp)
  | .text a, .text b => decidable_of_iff (a = b) (by simp)
  | .list a, .list b => @decidable_of_iff _ (a = b) (by simp) (decEqList a b)
  | .signed _, .unsigned _ => isFalse nofun
  | .signed _, .text _ => isFalse nofun
  | .signed _, .list _ => isFalse nofun
  | .unsigned _, .signed _ => isFalse nofun
  | .unsigned _, .text _ => isFalse nofun
  | .unsigned _, .list _ => isFalse nofun
  | .text _, .signed _ => isFalse nofun
  | .text _, .unsigned _ => isFalse nofun
  | .text _, .list _ => isFalse nofun
  | .list _, .signed _ => isFalse nofun
  | .list _, .unsigned _ => isFalse nofun
  | .list _, .text _ => isFalse nofun

/-- Equality of lists of parameters is decidable. -/
def decEqList : (a b : List Parameter) → Decidable (a = b)
  | [], [] => isTrue rfl
  | a :: as, b :: bs =>
    @decidable_of_iff _ (a = b ∧ as = bs) (by simp)
      (@instDecidableAnd _ _ (decEq a b) (decEqList as bs))
  | [], _ :: _ => isFalse nofun
  | _ :: _, [] => isFalse nofun

end

instance : DecidableEq Parameter := decEq

/-- A natural number below the word count as a parameter. -/
def ofNat (value : Nat) : Parameter := .unsigned (UInt64.ofNat value)

/-- A 32-bit number as a parameter. -/
def ofUInt32 (value : UInt32) : Parameter := .unsigned value.toUInt64

end Parameter

/-- Parameters by name, in the order of the names. -/
abbrev Parameters := SortedMap String Parameter

end MemoryFabric

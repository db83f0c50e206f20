/-!
# Faults and failures

A computation of this library can end in three ways: with a value, with an error that it reports to
its caller, or with a fault.  A fault is a step that has no answer at all, such as a product that does
not fit a machine word.  Keeping faults apart from reported errors lets a statement say that a function
never faults.
-/

namespace MemoryFabric

set_option autoImplicit false

/-- A step that has no answer. -/
inductive Fault where
  /-- A result of word arithmetic lies outside the 64-bit range. -/
  | overflow
  /-- A quotient or remainder by zero. -/
  | divisionByZero
  /-- A position past the end of a list. -/
  | outOfBounds
  /-- An entity identifier was registered a second time. -/
  | duplicateEntity (identifier : UInt64) (name : String)
  /-- The events seen are not the events that were expected. -/
  | unexpectedEvents
  /-- An expectation is not a well-formed pattern. -/
  | malformedPattern
  deriving DecidableEq, Repr

/-- The text of a fault that carries one. -/
def Fault.message? : Fault → Option String
  | .duplicateEntity identifier name => some s!"Entity ID {identifier} already seen ({name})"
  | _ => none

/-- The ways in which a computation ends without a value. -/
inductive Failure (ε : Type) where
  | reported (error : ε)
  | fault (fault : Fault)
  deriving DecidableEq, Repr

/-- Report errors under another name; faults stay as they are. -/
def Failure.map {ε δ : Type} (f : ε → δ) : Failure ε → Failure δ
  | .reported error => .reported (f error)
  | .fault cause => .fault cause

/-- A computation that may report an error or fault. -/
abbrev Attempt (ε α : Type) := Except (Failure ε) α

namespace Attempt

/-- Report an error. -/
def report {ε α : Type} (error : ε) : Attempt ε α := .error (.reported error)

/-- Run arithmetic that may fault. -/
def checked {ε α : Type} : Except Fault α → Attempt ε α
  | .ok value => .ok value
  | .error cause => .error (.fault cause)

/-- Run a reader whose only failures are reported errors. -/
def reporting {ε α : Type} : Except ε α → Attempt ε α
  | .ok value => .ok value
  | .error error => .error (.reported error)

end Attempt

end MemoryFabric

/-!
# Levels of detail

Events have a level, and so have their observers: an observer at a level sees the events of that level and
of every less detailed one.
-/

namespace MemoryFabric

set_option autoImplicit false

/-- A level of detail, from the least to the most detailed. -/
inductive Level where
  | error
  | warn
  | info
  | debug
  | trace
  deriving DecidableEq, Repr, Inhabited

namespace Level

/-- The place of a level in the order. -/
def rank : Level → Nat
  | .error => 1
  | .warn => 2
  | .info => 3
  | .debug => 4
  | .trace => 5

instance : LE Level := ⟨fun a b => a.rank ≤ b.rank⟩

instance (a b : Level) : Decidable (a ≤ b) := inferInstanceAs (Decidable (a.rank ≤ b.rank))

/-- The name of a level in the log. -/
def name : Level → String
  | .error => "ERROR"
  | .warn => "WARN"
  | .info => "INFO"
  | .debug => "DEBUG"
  | .trace => "TRACE"

/-- All levels. -/
def all : List Level := [.error, .warn, .info, .debug, .trace]

/-- The level of a name in any case. -/
def ofName? (text : String) : Option Level :=
  all.find? fun level => level.name = text.map Char.toUpper

end Level

end MemoryFabric

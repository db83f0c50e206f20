import MemoryFabric.Unicode.NamedSet

/-!
# Patterns

A pattern selects parts of a text.  It is put together from sets of characters, conditions on the place
between two characters, sequences, choices and repetitions.  What a pattern selects is the pairs of a place
where a selected part begins and a place where it ends; a place is the number of characters in front of it.

From several places at once the ends of all parts that begin there are computed.  As no part ends in front of
its begin, repeating a pattern reaches nothing new after as many rounds as the text has places.
-/

namespace MemoryFabric

set_option autoImplicit false

/-- Which side of a place belongs to a word. -/
inductive WordLook where
  /-- One side only. -/
  | edge
  /-- Both sides or none. -/
  | inside
  /-- Only the side behind the place. -/
  | start
  /-- Only the side in front of the place. -/
  | finish
  /-- Not the side in front of the place. -/
  | startHalf
  /-- Not the side behind the place. -/
  | finishHalf
  deriving DecidableEq, Repr

/-- A condition on a place of a text. -/
inductive Look where
  | textStart
  | textEnd
  /-- The begin of a line; lines can end with a carriage return as well. -/
  | lineStart (carriageReturns : Bool)
  | lineEnd (carriageReturns : Bool)
  /-- A condition on the words around the place, whose characters are of a set. -/
  | word (look : WordLook) (members : CharacterSet)
  deriving Repr

/-- A pattern. -/
inductive Pattern where
  | empty
  /-- One character of a set. -/
  | one (members : CharacterSet)
  | look (look : Look)
  | sequence (first second : Pattern)
  | choice (first second : Pattern)
  /-- At least `least` times and, if there is a bound, at most `most` times. -/
  | repetition (inner : Pattern) (least : Nat) (most : Option Nat)
  /-- A part that is told apart from the rest; this changes nothing in what the pattern selects. -/
  | group (inner : Pattern)
  deriving Repr

/-! ## Conditions -/

namespace WordLook

/-- Whether the condition holds between two sides, of which each belongs to a word or not. -/
def holds (before after : Bool) : WordLook → Bool
  | .edge => before != after
  | .inside => before == after
  | .start => !before && after
  | .finish => before && !after
  | .startHalf => !before
  | .finishHalf => !after

end WordLook

namespace Look

/-- Whether a line begins between two characters, of which either can be missing at an end of the text.  A
carriage return and a line feed together end one line. -/
def beginsLine (carriageReturns : Bool) (before after : Option Char) : Bool :=
  match before with
  | none => true
  | some '\n' => true
  | some '\r' => carriageReturns && after ≠ some '\n'
  | some _ => false

/-- Whether a line ends between two characters, of which either can be missing at an end of the text. -/
def endsLine (carriageReturns : Bool) (before after : Option Char) : Bool :=
  match after with
  | none => true
  | some '\n' => !(carriageReturns && before = some '\r')
  | some '\r' => carriageReturns
  | some _ => false

/-- Whether a condition holds between two characters, of which either can be missing at an end of the
text. -/
def holds (before after : Option Char) : Look → Bool
  | .textStart => before.isNone
  | .textEnd => after.isNone
  | .lineStart carriageReturns => beginsLine carriageReturns before after
  | .lineEnd carriageReturns => endsLine carriageReturns before after
  | .word look members => look.holds (before.any members.contains) (after.any members.contains)

end Look

/-! ## Places -/

/-- Places of a text, in increasing order, each once. -/
abbrev Places := List Nat

namespace Places

/-- The places in either of two lists. -/
def union : Places → Places → Places
  | [], other => other
  | places, [] => places
  | a :: rest, b :: rest' =>
    if a < b then a :: union rest (b :: rest')
    else if b < a then b :: union (a :: rest) rest'
    else a :: union rest rest'

/-- The places that are not in the other list. -/
def without (places other : Places) : Places := places.filter fun place => !other.contains place

/-- The places after exactly so many steps; when a step changes nothing, further steps do not either. -/
def exactly (step : Places → Places) : Nat → Places → Places
  | 0, places => places
  | count + 1, places =>
    let next := step places
    if next = places then places else exactly step count next

/-- The places after at most so many steps, of which some have been found already; `latest` are those found
by the latest step. -/
def upTo (step : Places → Places) : Nat → Places → Places → Places
  | 0, found, _ => found
  | count + 1, found, latest =>
    let new := (step latest).without found
    if new.isEmpty then found else upTo step count (found.union new) new

end Places

/-! ## Selected parts -/

namespace Pattern

/-- The ends of the parts that a pattern selects from any of several places of a text on. -/
def ends (text : Array Char) : Pattern → Places → Places
  | .empty, places => places
  | .one members, places =>
    (places.filter fun place => text[place]?.any members.contains).map (· + 1)
  | .look condition, places =>
    places.filter fun place =>
      condition.holds (if place = 0 then none else text[place - 1]?) text[place]?
  | .sequence first second, places => ends text second (ends text first places)
  | .choice first second, places => (ends text first places).union (ends text second places)
  | .repetition inner least most, places =>
    let reached := Places.exactly (ends text inner) least places
    let more := (most.map (· - least)).getD (text.size + 1)
    Places.upTo (ends text inner) (min more (text.size + 1)) reached reached
  | .group inner, places => ends text inner places

/-- The repetition of a pattern.  Repeating what can be repeated without a bound is one such repetition. -/
def repeated (inner : Pattern) (least : Nat) (most : Option Nat) : Pattern :=
  match inner with
  | .repetition innermost innerLeast none =>
    if innerLeast ≤ 1 ∧ most ≠ some 0 then .repetition innermost (innerLeast * least) none
    else .repetition inner least most
  | _ => .repetition inner least most

/-- A pattern that selects the same parts, without groups and without repetitions that can be joined. -/
def simplified : Pattern → Pattern
  | .empty => .empty
  | .one members => .one members
  | .look condition => .look condition
  | .sequence first second => .sequence first.simplified second.simplified
  | .choice first second => .choice first.simplified second.simplified
  | .repetition inner least most => inner.simplified.repeated least most
  | .group inner => inner.simplified

/-- Whether a pattern selects some part of a text. -/
def isMatch (pattern : Pattern) (text : String) : Bool :=
  let characters := text.toList.toArray
  !(pattern.simplified.ends characters (List.range (characters.size + 1))).isEmpty

end Pattern

end MemoryFabric

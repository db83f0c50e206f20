/-!
# Written patterns

The parts of a pattern as they are written, before it is known what they mean: that depends on options, which
can be changed inside a pattern.
-/

namespace MemoryFabric

set_option autoImplicit false

/-- A character in a pattern; two hexadecimal digits can stand for a byte as well as for a character. -/
structure WrittenCharacter where
  character : Char
  isByte : Bool
  deriving DecidableEq, Repr

/-- The kinds of characters that a letter stands for. -/
inductive CommonClass where
  | digit
  | blank
  | word
  deriving DecidableEq, Repr

/-- The kinds of characters of seven bits. -/
inductive AsciiClass where
  | alnum
  | alpha
  | ascii
  | blank
  | cntrl
  | digit
  | graph
  | lower
  | print
  | punct
  | space
  | upper
  | word
  | xdigit
  deriving DecidableEq, Repr

/-- The kind of a name. -/
def AsciiClass.named? : String → Option AsciiClass
  | "alnum" => some .alnum
  | "alpha" => some .alpha
  | "ascii" => some .ascii
  | "blank" => some .blank
  | "cntrl" => some .cntrl
  | "digit" => some .digit
  | "graph" => some .graph
  | "lower" => some .lower
  | "print" => some .print
  | "punct" => some .punct
  | "space" => some .space
  | "upper" => some .upper
  | "word" => some .word
  | "xdigit" => some .xdigit
  | _ => none

/-- A named set of characters. -/
inductive PropertyQuery where
  | named (name : String)
  | valued (property value : String)
  deriving DecidableEq, Repr

/-- The ways to put two classes together. -/
inductive ClassOperation where
  | inter
  | difference
  | symmetricDifference
  deriving DecidableEq, Repr

/-- A class of characters. -/
inductive WrittenClass where
  | empty
  | range (first last : WrittenCharacter)
  | ascii (isNegated : Bool) (kind : AsciiClass)
  | common (isNegated : Bool) (kind : CommonClass)
  | property (isNegated : Bool) (query : PropertyQuery)
  | brackets (isNegated : Bool) (inner : WrittenClass)
  | union (items : List WrittenClass)
  | operation (operation : ClassOperation) (first second : WrittenClass)
  deriving Repr

/-- The conditions on a place of a text. -/
inductive WrittenLook where
  | lineStart
  | lineEnd
  | textStart
  | textEnd
  | wordEdge
  | wordInside
  | wordStart
  | wordFinish
  | wordStartHalf
  | wordFinishHalf
  deriving DecidableEq, Repr

/-- The options of a pattern. -/
inductive PatternOption where
  /-- The case of letters does not count. -/
  | anyCase
  /-- Texts have several lines. -/
  | lines
  /-- A point stands for line breaks as well. -/
  | pointsAtBreaks
  /-- Repetitions prefer few rounds; this changes nothing in whether a text is matched. -/
  | fewRounds
  /-- Characters are those of all scripts. -/
  | unicode
  /-- Lines can end with carriage returns. -/
  | carriageReturns
  /-- White space and comments in the pattern do not count. -/
  | spaced
  deriving DecidableEq, Repr

/-- Options that are turned on or off. -/
abbrev OptionChange := List (PatternOption × Bool)

/-- A pattern as it is written. -/
inductive WrittenPattern where
  | options (change : OptionChange)
  | character (character : WrittenCharacter)
  | point
  | look (look : WrittenLook)
  | members (members : WrittenClass)
  | repetition (inner : WrittenPattern) (least : Nat) (most : Option Nat)
  /-- Parentheses around a pattern; they can keep what is inside for later. -/
  | group (isKept : Bool) (change : OptionChange) (inner : WrittenPattern)
  | sequence (parts : List WrittenPattern)
  | choice (alternatives : List WrittenPattern)
  deriving Repr

/-! ## Depth -/

mutual

/-- How deep a class lies inside itself. -/
def WrittenClass.depth : WrittenClass → Nat
  | .empty | .range _ _ | .ascii _ _ | .common _ _ | .property _ _ => 0
  | .brackets _ inner => inner.depth + 1
  | .union items => depthOfClasses items + 1
  | .operation _ first second => max first.depth second.depth + 1

/-- The depth of the deepest of several classes. -/
def depthOfClasses : List WrittenClass → Nat
  | [] => 0
  | item :: rest => max item.depth (depthOfClasses rest)

end

mutual

/-- How deep a pattern lies inside itself. -/
def WrittenPattern.depth : WrittenPattern → Nat
  | .options _ | .character _ | .point | .look _ => 0
  | .members members => members.depth
  | .repetition inner _ _ => inner.depth + 1
  | .group _ _ inner => inner.depth + 1
  | .sequence parts => depthOfPatterns parts + 1
  | .choice alternatives => depthOfPatterns alternatives + 1

/-- The depth of the deepest of several patterns. -/
def depthOfPatterns : List WrittenPattern → Nat
  | [] => 0
  | part :: rest => max part.depth (depthOfPatterns rest)

end

/-- The class of several items; one item is a class by itself. -/
def WrittenClass.ofItems : List WrittenClass → WrittenClass
  | [] => .empty
  | [item] => item
  | items => .union items

namespace WrittenPattern

/-- The pattern of several parts one after another; one part is a pattern by itself. -/
def ofParts : List WrittenPattern → WrittenPattern
  | [] => .options []
  | [part] => part
  | parts => .sequence parts

/-- The pattern of several alternatives; one alternative is a pattern by itself. -/
def ofAlternatives : List WrittenPattern → WrittenPattern
  | [alternative] => alternative
  | alternatives => .choice alternatives

/-- How deep a pattern may lie inside itself. -/
def deepest : Nat := 250

end WrittenPattern

end MemoryFabric

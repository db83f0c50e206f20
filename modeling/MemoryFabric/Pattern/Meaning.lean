import MemoryFabric.Pattern.Pattern
import MemoryFabric.Pattern.Written
import MemoryFabric.Unicode.CaseFolding

/-!
# The meaning of written patterns

A written pattern means a pattern once the options are known that hold at each of its parts.  A change of
options holds up to the end of the group that it is in.  With characters of seven bits only, a class must not
reach beyond them, because a pattern never selects a part of a character.
-/

namespace MemoryFabric

set_option autoImplicit false

/-- The options that hold at a part of a pattern. -/
structure PatternOptions where
  anyCase : Bool
  lines : Bool
  pointsAtBreaks : Bool
  unicode : Bool
  carriageReturns : Bool
  deriving DecidableEq, Repr

namespace PatternOptions

/-- The options at the begin of a pattern. -/
def initial : PatternOptions := ⟨false, false, false, true, false⟩

/-- The options after a change. -/
def change (options : PatternOptions) (change : OptionChange) : PatternOptions where
  anyCase := (change.lookup .anyCase).getD options.anyCase
  lines := (change.lookup .lines).getD options.lines
  pointsAtBreaks := (change.lookup .pointsAtBreaks).getD options.pointsAtBreaks
  unicode := (change.lookup .unicode).getD options.unicode
  carriageReturns := (change.lookup .carriageReturns).getD options.carriageReturns

/-- A set with the other forms of its letters, if the case does not count. -/
def fold (options : PatternOptions) (set : CharacterSet) : CharacterSet :=
  if !options.anyCase then set else if options.unicode then set.anyCase else set.anyAsciiCase

/-- The characters outside a set, which reach beyond seven bits. -/
def negate? (options : PatternOptions) (isNegated : Bool) (set : CharacterSet) :
    Option CharacterSet :=
  if !isNegated then some set else if options.unicode then some set.complement else none

end PatternOptions

/-! ## Classes -/

/-- The characters of a kind. -/
def AsciiClass.set : AsciiClass → CharacterSet
  | .alnum => .ofText "30-39 41-5a 61-7a"
  | .alpha => .ofText "41-5a 61-7a"
  | .ascii => .ofText "0-7f"
  | .blank => .ofText "9 20"
  | .cntrl => .ofText "0-1f 7f"
  | .digit => .ofText "30-39"
  | .graph => .ofText "21-7e"
  | .lower => .ofText "61-7a"
  | .print => .ofText "20-7e"
  | .punct => .ofText "21-2f 3a-40 5b-60 7b-7e"
  | .space => .ofText "9-d 20"
  | .upper => .ofText "41-5a"
  | .word => .ofText "30-39 41-5a 5f 61-7a"
  | .xdigit => .ofText "30-39 41-46 61-66"

/-- The characters of a kind that has a letter. -/
def CommonClass.set (isUnicode : Bool) : CommonClass → CharacterSet
  | .digit => if isUnicode then NamedSet.digits else AsciiClass.digit.set
  | .blank => if isUnicode then NamedSet.blanks else AsciiClass.space.set
  | .word => if isUnicode then NamedSet.wordCharacters else AsciiClass.word.set

/-- The set of a query, if there is one. -/
def PropertyQuery.set? : PropertyQuery → Option CharacterSet
  | .named name => NamedSet.named? name
  | .valued property value => NamedSet.valued? property value

/-- Two sets put together. -/
def ClassOperation.apply : ClassOperation → CharacterSet → CharacterSet → CharacterSet
  | .inter => CharacterSet.inter
  | .difference => CharacterSet.difference
  | .symmetricDifference => CharacterSet.symmetricDifference

mutual

/-- The characters of a class. -/
def WrittenClass.set? (options : PatternOptions) : WrittenClass → Option CharacterSet
  | .empty => some .empty
  | .range first last =>
    if options.unicode || last.character.toNat < 0x80 then
      some (.range first.character last.character)
    else none
  | .ascii isNegated kind => options.negate? isNegated (options.fold kind.set)
  | .common isNegated kind => options.negate? isNegated (kind.set options.unicode)
  | .property isNegated query =>
    if options.unicode then
      query.set?.bind fun set => options.negate? isNegated (options.fold set)
    else none
  | .brackets isNegated inner =>
    (inner.set? options).bind fun set => options.negate? isNegated (options.fold set)
  | .union items => (setsOfClasses? options items).map CharacterSet.unions
  | .operation operation first second => do
    let first ← first.set? options
    let second ← second.set? options
    return operation.apply (options.fold first) (options.fold second)

/-- The characters of each of several classes. -/
def setsOfClasses? (options : PatternOptions) : List WrittenClass → Option (List CharacterSet)
  | [] => some []
  | item :: rest => do
    let set ← item.set? options
    let sets ← setsOfClasses? options rest
    return set :: sets

end

/-! ## Patterns -/

/-- The set of a character; a byte beyond seven bits is no character. -/
def WrittenCharacter.set? (options : PatternOptions) (written : WrittenCharacter) :
    Option CharacterSet :=
  if !options.unicode && written.isByte && 0x80 ≤ written.character.toNat then none
  else some (options.fold (.single written.character))

/-- The characters that a point stands for; it stands for characters of all scripts only. -/
def PatternOptions.pointSet? (options : PatternOptions) : Option CharacterSet :=
  if !options.unicode then none
  else if options.pointsAtBreaks then some .all
  else if options.carriageReturns then some (CharacterSet.ofText "a d").complement
  else some (CharacterSet.single '\n').complement

/-- The meaning of a condition. -/
def WrittenLook.look (options : PatternOptions) : WrittenLook → Look
  | .lineStart => if options.lines then .lineStart options.carriageReturns else .textStart
  | .lineEnd => if options.lines then .lineEnd options.carriageReturns else .textEnd
  | .textStart => .textStart
  | .textEnd => .textEnd
  | .wordEdge => word .edge
  | .wordInside => word .inside
  | .wordStart => word .start
  | .wordFinish => word .finish
  | .wordStartHalf => word .startHalf
  | .wordFinishHalf => word .finishHalf
where
  /-- A condition on words. -/
  word (look : WordLook) : Look := .word look (CommonClass.word.set options.unicode)

namespace Pattern

/-- Patterns one after another; what is empty can be left out. -/
def sequenceOf : List Pattern → Pattern
  | [] => .empty
  | [last] => last
  | .empty :: rest => sequenceOf rest
  | first :: rest =>
    match sequenceOf rest with
    | .empty => first
    | second => .sequence first second

/-- The characters of a pattern that selects single characters only. -/
def members? : Pattern → Option CharacterSet
  | .one members => some members
  | _ => none

/-- Several patterns to choose from, one after another. -/
def choiceInOrder : List Pattern → Pattern
  | [] => .one .empty
  | [last] => last
  | first :: rest => .choice first (choiceInOrder rest)

/-- The choice between patterns; between single characters it is one set. -/
def choiceOf (patterns : List Pattern) : Pattern :=
  match patterns.mapM members? with
  | some sets => .one (.unions sets)
  | none => choiceInOrder patterns

end Pattern

mutual

/-- The meaning of a pattern, and the options behind it. -/
def WrittenPattern.meaning? (options : PatternOptions) :
    WrittenPattern → Option (Pattern × PatternOptions)
  | .options change => some (.empty, options.change change)
  | .character character =>
    (character.set? options).map fun set => (.one set, options)
  | .point => options.pointSet?.map fun set => (.one set, options)
  | .look look => some (.look (look.look options), options)
  | .members members => (members.set? options).map fun set => (.one set, options)
  | .repetition inner least most =>
    (inner.meaning? options).map fun (pattern, options) =>
      (.repetition pattern least most, options)
  | .group isKept change inner =>
    (inner.meaning? (options.change change)).map fun (pattern, _) =>
      (if isKept then .group pattern else pattern, options)
  | .sequence parts =>
    (meanings? options parts).map fun (patterns, options) => (Pattern.sequenceOf patterns, options)
  | .choice alternatives =>
    (meanings? options alternatives).map fun (patterns, options) =>
      (Pattern.choiceOf patterns, options)

/-- The meanings of several patterns, of which each changes the options for the next. -/
def meanings? (options : PatternOptions) :
    List WrittenPattern → Option (List Pattern × PatternOptions)
  | [] => some ([], options)
  | part :: rest => do
    let (pattern, options) ← part.meaning? options
    let (patterns, options) ← meanings? options rest
    return (pattern :: patterns, options)

end

end MemoryFabric

import MemoryFabric.Configuration.Value

/-!
# Mistakes in documents

Why a document gives no map of settings: it does not follow its notation, its root is no map, or a key
somewhere in it is no text.  The last two say where the mistake is: the lines and columns of the root or the
key, and the way to the map that the key belongs to.
-/

namespace MemoryFabric

set_option autoImplicit false

/-- A place in a document, its line and column counted from zero. -/
structure DocumentPosition where
  line : Nat
  column : Nat
  deriving DecidableEq, Repr

/-- The end of a message about a mistake at a place; the begin of a document goes without saying. -/
def DocumentPosition.text (position : DocumentPosition) : String :=
  if position.line = 0 ∧ position.column = 0 then ""
  else s!" at line {position.line + 1} column {position.column + 1}"

/-- A step on the way down into a document. -/
inductive DocumentStep where
  | key (name : String)
  | item (index : Nat)
  /-- To the value of a key that is known by a reference only. -/
  | unnamedKey
  deriving DecidableEq, Repr

/-- The way with one step more; the way to the root is a single point. -/
def DocumentStep.extend (way : String) (step : DocumentStep) : String :=
  let front := if way = "." then "" else way ++ "."
  match step with
  | .key name => front ++ name
  | .item index => way ++ "[" ++ toString index ++ "]"
  | .unnamedKey => front ++ "?"

/-- Why a document gives no map of settings. -/
inductive DocumentMistake where
  | malformed
  | notMap (document : Value) (position : DocumentPosition)
  /-- A key is a map or a sequence. -/
  | keyNotText (way : List DocumentStep) (isMap : Bool) (position : DocumentPosition)
  deriving Repr

/-- The same mistake, seen from one step further up. -/
def DocumentMistake.below (step : DocumentStep) : DocumentMistake → DocumentMistake
  | .keyNotText way isMap position => .keyNotText (step :: way) isMap position
  | mistake => mistake

/-- What went wrong. -/
def DocumentMistake.detail : DocumentMistake → String
  | .malformed => "(syntax error)"
  | .notMap document position =>
    s!"invalid type: {document.whole}, expected a map{position.text}"
  | .keyNotText way isMap position =>
    let way := way.foldl DocumentStep.extend "."
    let kind := if isMap then "map" else "sequence"
    (if way = "." then "" else way ++ ": ") ++
      s!"invalid type: {kind}, expected a string{position.text}"

end MemoryFabric

import MemoryFabric.Configuration.Layer
import MemoryFabric.Number.Literal
import MemoryFabric.Text.Blank
import MemoryFabric.Text.Escaped

/-!
# The environment as a layer

Twelve environment variables override settings, their names in any case.  The text of a variable is read
as a truth value, a number, a quoted text, a list or a map when it has that form from its begin to its end;
otherwise it is text as it stands.
-/

namespace MemoryFabric.Environment

set_option autoImplicit false

/-! ## Values of variables -/

/-- Whether a character is an ASCII space or line break. -/
def isSpace (character : Char) : Bool :=
  character = ' ' || character = '\t' || character = '\n' || character = '\r' || character = '\x0c'

/-- Whether a character ends a bare word. -/
def isSeparator (character : Char) : Bool :=
  character = ',' || character = '{' || character = '}' || character = '[' || character = ']'

/-- Whether a character may occur in a bare key. -/
def isKeyCharacter (character : Char) : Bool :=
  character.isAlphanum || character = '_' || character = '-'

/-- The value of a bare word. -/
def wordValue (word : List Char) : Value :=
  let word := Text.trimBlanks word
  let number := if word.contains '.' then (Number.fraction? word).map Value.number else none
  let unsigned := (Number.word? 10 word).map Value.unsigned
  let signed := (Number.signedWord? 10 word).map Value.signed
  ((number.or unsigned).or signed).getD (.text (String.ofList word))

/-- The characters up to the closing quote, escapes resolved, from behind the first quote. -/
def readQuoted? : Nat → List Char → List Char → Option (List Char × List Char)
  | 0, _, _ => none
  | fuel + 1, text, characters =>
    match characters with
    | '"' :: rest => some (text, rest)
    | '\\' :: rest => do
      let (character, length) ← Text.readEscape? rest
      readQuoted? fuel (text ++ [character]) (rest.drop length)
    | character :: rest =>
      if Text.isVisible character then readQuoted? fuel (text ++ [character]) rest else none
    | [] => none

/-- Read a key of a map. -/
def readKey? (characters : List Char) : Option (String × List Char) :=
  match characters with
  | '"' :: rest =>
    (readQuoted? (rest.length + 1) [] rest).map fun (text, rest) => (String.ofList text, rest)
  | _ =>
    let word := characters.takeWhile isKeyCharacter
    if word.isEmpty then none else some (String.ofList word, characters.drop word.length)

mutual

/-- Read a value, with the spaces around it. -/
def readValue? : Nat → List Char → Option (Value × List Char)
  | 0, _ => none
  | fuel + 1, characters =>
    (readBare? fuel (characters.dropWhile isSpace)).map fun (value, rest) =>
      (value, rest.dropWhile isSpace)

/-- Read a value. -/
def readBare? : Nat → List Char → Option (Value × List Char)
  | 0, _ => none
  | fuel + 1, characters =>
    match characters with
    | 't' :: 'r' :: 'u' :: 'e' :: rest => some (.flag true, rest)
    | 'f' :: 'a' :: 'l' :: 's' :: 'e' :: rest => some (.flag false, rest)
    | '{' :: rest => (readEntries? fuel rest).map fun (entries, rest) => (.ofEntries entries, rest)
    | '[' :: rest => (readItems? fuel rest).map fun (items, rest) => (.list items, rest)
    | '"' :: rest =>
      (readQuoted? (rest.length + 1) [] rest).map fun (text, rest) =>
        (.text (String.ofList text), rest)
    | '\'' :: rest =>
      match rest with
      | character :: '\'' :: rest => some (.text (String.singleton character), rest)
      | _ => none
    | _ =>
      let word := characters.takeWhile fun character => !isSeparator character
      some (wordValue word, characters.drop word.length)

/-- Read the items of a list, from behind its bracket. -/
def readItems? : Nat → List Char → Option (List Value × List Char)
  | 0, _ => none
  | fuel + 1, characters =>
    match characters with
    | ']' :: rest => some ([], rest)
    | _ => do
      let (item, rest) ← readValue? fuel characters
      match rest with
      | ',' :: rest => do
        let (items, rest) ← readItems? fuel rest
        return (item :: items, rest)
      | ']' :: rest => return ([item], rest)
      | _ => none

/-- Read the entries of a map, from behind its brace. -/
def readEntries? : Nat → List Char → Option (List (String × Value) × List Char)
  | 0, _ => none
  | fuel + 1, characters =>
    match characters with
    | '}' :: rest => some ([], rest)
    | _ => do
      let (key, rest) ← readKey? (characters.dropWhile isSpace)
      match rest.dropWhile isSpace with
      | '=' :: rest => do
        let (value, rest) ← readValue? fuel rest
        match rest with
        | ',' :: rest => do
          let (entries, rest) ← readEntries? fuel rest
          return ((key, value) :: entries, rest)
        | '}' :: rest => return ([(key, value)], rest)
        | _ => none
      | _ => none

end

/-- The value of a variable. -/
def value (text : String) : Value :=
  match readValue? (3 * text.length + 3) text.toList with
  | some (value, []) => value
  | _ => .text text

/-! ## Names of variables -/

/-- The settings that variables override. -/
def overrides : List (String × List String) :=
  [("NODES", ["memory", "nodes"]),
    ("INTERLEAVE", ["memory", "interleave"]),
    ("MEMORY_MODEL", ["memory", "model"]),
    ("PIM_TYPE", ["memory", "pim_type"]),
    ("NUM_CPUS", ["compute", "num_cpus"]),
    ("NUM_CORES", ["compute", "num_cores"]),
    ("ARCH", ["compute", "arch"]),
    ("APP", ["compute", "app"]),
    ("ARGS", ["compute", "args"]),
    ("REV_EXE", ["compute", "program"]),
    ("FORCE_NONCACHEABLE_REQS", ["compute", "force_noncacheable_reqs"]),
    ("OUTPUT_DIRECTORY", ["output_directory"])]

/-- The setting that a variable overrides. -/
def path? (name : String) : Option (List String) :=
  (overrides.find? fun entry => entry.1 = name.map Char.toUpper).map Prod.snd

/-- A value at a path of keys. -/
def nest (value : Value) : List String → Value
  | [] => value
  | key :: path => .map [(key, nest value path)]

/-- The layer of an environment, its variables in the order of their names. -/
def layer (environment : List (String × String)) : Layered :=
  (SortedMap.ofList environment).toList.foldl
    (fun layer (name, text) =>
      match path? name with
      | some path => layer.merge (Layered.ofValue .environment (nest (value text) path))
      | none => layer)
    (.group .environment [])

end MemoryFabric.Environment

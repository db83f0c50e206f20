import MemoryFabric.Yaml.Anchor
import MemoryFabric.Yaml.Token

/-!
# Nodes of a YAML document

A document as a tree: scalars, sequences and mappings, each with its tag, and aliases for nodes that are
written elsewhere.  A node that is left out is an empty plain scalar.
-/

namespace MemoryFabric.Yaml

set_option autoImplicit false

/-- A node of a document, with the place where it begins. -/
inductive Node where
  /-- Another node, by the number of its anchor. -/
  | alias (number : Nat)
  | scalar (position : DocumentPosition) (tag : Option Tag) (text : String) (isPlain : Bool)
  | sequence (position : DocumentPosition) (tag : Option Tag) (items : List Node)
  | mapping (position : DocumentPosition) (tag : Option Tag) (entries : List (Node × Node))
  deriving Repr

mutual

/-- The length of a node: a collection counts for its begin and its end, anything else once. -/
def Node.length : Node → Nat
  | .alias _ => 1
  | .scalar _ _ _ _ => 1
  | .sequence _ _ items => 2 + lengthOfItems items
  | .mapping _ _ entries => 2 + lengthOfEntries entries

/-- The length of the items of a sequence. -/
def lengthOfItems : List Node → Nat
  | [] => 0
  | item :: rest => item.length + lengthOfItems rest

/-- The length of the entries of a mapping. -/
def lengthOfEntries : List (Node × Node) → Nat
  | [] => 0
  | (key, value) :: rest => key.length + value.length + lengthOfEntries rest

end

/-- The tokens that are left, the handles of the document, and its anchors so far. -/
structure NodeReader where
  tokens : List PlacedToken
  handles : Tag.Handles
  anchors : Anchors Node

/-- The anchor and the tag in front of a node, and the place where the first of them or the node begins. -/
structure NodeStart where
  position : DocumentPosition
  anchor : Option String
  tag : Option Tag

namespace NodeReader

/-- The next token. -/
def peek (reader : NodeReader) : Option Token := reader.tokens.head?.map PlacedToken.token

/-- The place of the next token. -/
def position (reader : NodeReader) : DocumentPosition :=
  (reader.tokens.head?.map PlacedToken.position).getD ⟨0, 0⟩

/-- The reader behind the next token. -/
def drop (reader : NodeReader) : NodeReader := { reader with tokens := reader.tokens.tail }

/-- Whether the next token is one of the given. -/
def isAt (reader : NodeReader) (tokens : List Token) : Bool :=
  reader.peek.any fun token => tokens.contains token

/-- A node that is left out. -/
def emptyNode (reader : NodeReader) : Node := .scalar reader.position none "" true

/-- The tag of a handle and a suffix. -/
def tag? (reader : NodeReader) (handle : String) (suffix : Address) : Option Tag :=
  Tag.ofHandle? reader.handles handle suffix

/-- Read the anchor and the tag in front of a node, in either order. -/
def readStart (reader : NodeReader) : Option (NodeStart × NodeReader) :=
  let start (anchor : Option String) (tag : Option Tag) (rest : List PlacedToken) :=
    (NodeStart.mk reader.position anchor tag, { reader with tokens := rest })
  match reader.tokens with
  | ⟨.anchor name, _⟩ :: ⟨.tag handle suffix, _⟩ :: rest
  | ⟨.tag handle suffix, _⟩ :: ⟨.anchor name, _⟩ :: rest =>
    (reader.tag? handle suffix).map fun tag => start (some name) (some tag) rest
  | ⟨.anchor name, _⟩ :: rest => some (start (some name) none rest)
  | ⟨.tag handle suffix, _⟩ :: rest =>
    (reader.tag? handle suffix).map fun tag => start none (some tag) rest
  | rest => some (start none none rest)

mutual

/-- Read a node.  `inBlock` tells whether a block may begin here, and `atKey` whether the items of a
sequence may stand at the column of their key. -/
def readNode : Nat → Bool → Bool → NodeReader → Option (Node × NodeReader)
  | 0, _, _, _ => none
  | fuel + 1, inBlock, atKey, reader =>
    match reader.peek with
    | some (.alias name) =>
      (reader.anchors.number? name).map fun number => (.alias number, reader.drop)
    | _ => do
      let (start, reader) ← reader.readStart
      match start.anchor with
      | none => readContent fuel inBlock atKey start reader
      | some name =>
        let (order, anchors) := reader.anchors.beginNode name
        let (node, reader) ← readContent fuel inBlock atKey start { reader with anchors }
        return (node, { reader with anchors := reader.anchors.endNode order node })

/-- Read a node behind its anchor and its tag; only a node that has one of them can be left out. -/
def readContent :
    Nat → Bool → Bool → NodeStart → NodeReader → Option (Node × NodeReader)
  | 0, _, _, _, _ => none
  | fuel + 1, inBlock, atKey, start, reader =>
    let absent :=
      if start.anchor.isSome || start.tag.isSome then
        some (.scalar start.position start.tag "" true, reader)
      else none
    let sequence (read : List Node × NodeReader) : Node × NodeReader :=
      (.sequence start.position start.tag read.1, read.2)
    let mapping (read : List (Node × Node) × NodeReader) : Node × NodeReader :=
      (.mapping start.position start.tag read.1, read.2)
    match reader.peek with
    | some (.scalar text isPlain) =>
      some (.scalar start.position start.tag text isPlain, reader.drop)
    | some .flowSequence => (readFlowItems fuel true reader.drop).map sequence
    | some .flowMapping => (readFlowEntries fuel true reader.drop).map mapping
    | some .blockEntry => if atKey then (readItems fuel true reader).map sequence else absent
    | some .blockSequence =>
      if inBlock then (readItems fuel false reader.drop).map sequence else absent
    | some .blockMapping =>
      if inBlock then (readEntries fuel reader.drop).map mapping else absent
    | _ => absent

/-- Read a node, or take it as left out when one of the given tokens comes next. -/
def readUnless :
    Nat → Bool → Bool → List Token → NodeReader → Option (Node × NodeReader)
  | 0, _, _, _, _ => none
  | fuel + 1, inBlock, atKey, ends, reader =>
    if reader.isAt ends then some (reader.emptyNode, reader) else readNode fuel inBlock atKey reader

/-- Read a colon and a value, or take the value as left out. -/
def readValue : Nat → Bool → List Token → NodeReader → Option (Node × NodeReader)
  | 0, _, _, _ => none
  | fuel + 1, inBlock, ends, reader =>
    if reader.isAt [.value] then readUnless fuel inBlock inBlock ends reader.drop
    else some (reader.emptyNode, reader)

/-- Read the items of a block.  Items at the column of their key end with any other token, the others
with the end of the block. -/
def readItems : Nat → Bool → NodeReader → Option (List Node × NodeReader)
  | 0, _, _ => none
  | fuel + 1, atKey, reader =>
    if reader.isAt [.blockEntry] then do
      let ends :=
        if atKey then [Token.blockEntry, .key, .value, .blockEnd] else [.blockEntry, .blockEnd]
      let (item, reader) ← readUnless fuel true false ends reader.drop
      let (items, reader) ← readItems fuel atKey reader
      return (item :: items, reader)
    else if atKey then some ([], reader)
    else if reader.isAt [.blockEnd] then some ([], reader.drop)
    else none

/-- Read the entries of a block. -/
def readEntries : Nat → NodeReader → Option (List (Node × Node) × NodeReader)
  | 0, _ => none
  | fuel + 1, reader => do
    let ends := [Token.key, .value, .blockEnd]
    if reader.isAt [.blockEnd] then return ([], reader.drop)
    if !reader.isAt [.key] then none
    let (key, reader) ← readUnless fuel true true ends reader.drop
    let (value, reader) ← readValue fuel true ends reader
    let (entries, reader) ← readEntries fuel reader
    return ((key, value) :: entries, reader)

/-- Read items between brackets; a comma comes before each but the first.  An item with a colon is a
mapping of one entry; a token that ends its key belongs to the key when the key is left out. -/
def readFlowItems : Nat → Bool → NodeReader → Option (List Node × NodeReader)
  | 0, _, _ => none
  | fuel + 1, isFirst, reader => do
    if reader.isAt [.flowSequenceEnd] then return ([], reader.drop)
    if !(isFirst || reader.isAt [.flowEntry]) then none
    let reader := if isFirst then reader else reader.drop
    if reader.isAt [.flowSequenceEnd] then return ([], reader.drop)
    let ends := [Token.flowEntry, .flowSequenceEnd]
    let (item, reader) ←
      if reader.isAt [.key] then do
        let position := reader.position
        let reader := reader.drop
        let (key, reader) ←
          if reader.isAt (.value :: ends) then pure (reader.emptyNode, reader.drop)
          else readNode fuel false false reader
        let (value, reader) ← readValue fuel false ends reader
        pure (Node.mapping position none [(key, value)], reader)
      else readNode fuel false false reader
    let (items, reader) ← readFlowItems fuel false reader
    return (item :: items, reader)

/-- Read entries between braces; a comma comes before each but the first. -/
def readFlowEntries : Nat → Bool → NodeReader → Option (List (Node × Node) × NodeReader)
  | 0, _, _ => none
  | fuel + 1, isFirst, reader => do
    if reader.isAt [.flowMappingEnd] then return ([], reader.drop)
    if !(isFirst || reader.isAt [.flowEntry]) then none
    let reader := if isFirst then reader else reader.drop
    if reader.isAt [.flowMappingEnd] then return ([], reader.drop)
    let ends := [Token.flowEntry, .flowMappingEnd]
    let (key, value, reader) ←
      if reader.isAt [.key] then do
        let (key, reader) ← readUnless fuel false false (.value :: ends) reader.drop
        let (value, reader) ← readValue fuel false ends reader
        pure (key, value, reader)
      else do
        let (key, reader) ← readNode fuel false false reader
        pure (key, reader.emptyNode, reader)
    let (entries, reader) ← readFlowEntries fuel false reader
    return ((key, value) :: entries, reader)

end

/-- Skip the markers behind a document. -/
def dropEnds (reader : NodeReader) : NodeReader :=
  { reader with tokens := reader.tokens.dropWhile fun token => token.token = .documentEnd }

/-- Read the declarations in front of a document.  It has one version at most, and a handle is declared
once; gives whether there was any declaration. -/
def readDeclarations (hasVersion : Bool) (declared : Tag.Handles) :
    List PlacedToken → Option (Bool × Tag.Handles × List PlacedToken)
  | ⟨.version major minor, _⟩ :: rest =>
    if hasVersion || major ≠ 1 || (minor ≠ 1 && minor ≠ 2) then none
    else readDeclarations true declared rest
  | ⟨.handle name address, _⟩ :: rest =>
    if declared.any fun handle => handle.1 = name then none
    else readDeclarations hasVersion ((name, address) :: declared) rest
  | rest => some (hasVersion || !declared.isEmpty, declared, rest)

/-- The reader in front of the node of a document, and whether a marker begins the document; only then the
node can be left out. -/
def ofTokens? (tokens : List PlacedToken) : Option (Bool × NodeReader) := do
  let (isDeclared, declared, rest) ← readDeclarations false [] tokens
  let reader : NodeReader := ⟨rest, declared ++ Tag.standardHandles, .none⟩
  if reader.isAt [.documentStart] then return (true, reader.drop)
  if isDeclared then none else return (false, reader)

end NodeReader

/-- A document that has been read: its node and its anchors. -/
structure NodeDocument where
  root : Node
  anchors : Anchors Node
  deriving Repr

/-- The document of a list of tokens: nothing when the tokens are no document or more than one. -/
def NodeDocument.ofTokens? (tokens : List PlacedToken) : Option NodeDocument := do
  let (isMarked, reader) ← NodeReader.ofTokens? tokens
  let isEmpty := reader.tokens.isEmpty
  let (root, reader) ←
    if isEmpty || (isMarked && reader.isAt [.documentStart, .documentEnd]) then
      pure (reader.emptyNode, reader)
    else reader.readNode (6 * tokens.length + 6) true false
  if reader.dropEnds.tokens.isEmpty then return ⟨root, reader.anchors⟩ else none

end MemoryFabric.Yaml

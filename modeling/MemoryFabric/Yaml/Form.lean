import MemoryFabric.Yaml.Meaning
import MemoryFabric.Yaml.Tree

/-!
# Forms of a YAML document

Here a document is read by its own rules alone: keys can be of any kind, and what a tag names belongs to the
node.  A document is sound when it can be read like this, that is, when no mapping has two equal keys and
no integer is larger than a word.
-/

namespace MemoryFabric.Yaml

set_option autoImplicit false

/-- What a node is by its form. -/
inductive Form where
  | null
  | flag (value : Bool)
  | integer (value : Int)
  | number (value : Binary64)
  | text (value : String)
  | list (items : List Form)
  | map (entries : List (Form × Form))
  /-- A node of the document's own kind. -/
  | own (name : String) (form : Form)
  deriving Repr

namespace Form

/-- The form of a scalar that has a value; an integer must be a word. -/
def ofValue? : Value → Option Form
  | .null => some .null
  | .flag value => some (.flag value)
  | .unsigned value => some (.integer value.toNat)
  | .signed value => some (.integer value.toInt)
  | .number value => some (.number value)
  | .text value => some (.text value)
  | .large _ | .list _ | .map _ => none

/-- The name of a kind without the mark that may begin it. -/
def kindName (name : String) : List Char :=
  match name.toList with
  | '!' :: character :: rest => character :: rest
  | characters => characters

/-- Whether numbers are equal; the sign of zero makes no difference. -/
def sameNumber : Binary64 → Binary64 → Bool
  | .finite _ 0 _, .finite _ 0 _ => true
  | a, b => a = b

mutual

/-- Whether forms are equal; the order of the entries of a map makes no difference. -/
def same : Form → Form → Bool
  | .null, .null => true
  | .flag a, .flag b => a = b
  | .integer a, .integer b => a = b
  | .number a, .number b => sameNumber a b
  | .text a, .text b => a = b
  | .list a, .list b => sameItems a b
  | .map a, .map b => a.length = b.length && hasEntries b a
  | .own name a, .own name' b => kindName name = kindName name' && same a b
  | _, _ => false

/-- Whether lists of forms are equal. -/
def sameItems : List Form → List Form → Bool
  | [], [] => true
  | a :: rest, b :: rest' => same a b && sameItems rest rest'
  | _, _ => false

/-- Whether each of the second entries is among the first ones. -/
def hasEntries (all : List (Form × Form)) : List (Form × Form) → Bool
  | [] => true
  | (key, value) :: rest =>
    (all.any fun entry => same key entry.1 && same value entry.2) && hasEntries all rest

end

/-- Whether two of the forms are equal. -/
def hasRepetition : List Form → Bool
  | [] => false
  | form :: rest => rest.any (same form) || hasRepetition rest

/-- A map, unless two of its keys are equal. -/
def map? (entries : List (Form × Form)) : Option Form :=
  if hasRepetition (entries.map Prod.fst) then none else some (.map entries)

/-- The form of a node with a tag. -/
def tagged (tag : Option Tag) (form : Form) : Form :=
  match tag with
  | some (.own (some name)) => .own name form
  | _ => form

end Form

mutual

/-- The form of a tree, if it has one. -/
def Tree.form? : Tree → Option Form
  | .scalar _ tag text isPlain =>
    ((scalarValue? tag text isPlain).bind Form.ofValue?).map (Form.tagged tag)
  | .sequence _ tag items => (itemForms? items).map fun forms => Form.tagged tag (.list forms)
  | .mapping _ tag entries =>
    ((entryForms? entries).bind Form.map?).map (Form.tagged tag)

/-- The forms of the items of a sequence. -/
def itemForms? : List Tree → Option (List Form)
  | [] => some []
  | item :: rest => do
    let form ← item.form?
    let forms ← itemForms? rest
    return form :: forms

/-- The forms of the entries of a mapping. -/
def entryForms? : List (DocumentStep × Tree × Tree) → Option (List (Form × Form))
  | [] => some []
  | (_, key, value) :: rest => do
    let keyForm ← key.form?
    let valueForm ← value.form?
    let forms ← entryForms? rest
    return (keyForm, valueForm) :: forms

end

/-- Whether a tree has a form. -/
def Tree.isSound (tree : Tree) : Bool := tree.form?.isSome

end MemoryFabric.Yaml

/-!
# Folders

A folder of text files, as a program finds it in its working directory: which text a path leads to, and why
a file cannot be created at a path.  A path is followed part by part.  An empty part and a single dot stay
where they are and two dots lead back, but only from a folder: a path cannot lead through a file or through
a name that nothing has.
-/

namespace MemoryFabric

set_option autoImplicit false

/-- The files of a folder by their paths. -/
structure Folder where
  files : List (String × String)

/-- Why a path cannot be used. -/
inductive PathRefusal where
  | missing
  | notFolder
  | isFolder
  | nameTooLong
  | hasNull
  deriving DecidableEq, Repr

/-- The message about a path that cannot be used. -/
def PathRefusal.message : PathRefusal → String
  | .missing => "No such file or directory (os error 2)"
  | .notFolder => "Not a directory (os error 20)"
  | .isFolder => "Is a directory (os error 21)"
  | .nameTooLong => "File name too long (os error 36)"
  | .hasNull => "file name contained an unexpected NUL byte"

/-- A place in the file system: how many folders above the working directory the walk to it begins, and the
names on the walk down, the last one first. -/
structure Place where
  above : Nat
  names : List String
  deriving DecidableEq, Repr

namespace Place

/-- The working directory. -/
def here : Place := ⟨0, []⟩

/-- The folder around a place. -/
def parent : Place → Place
  | ⟨above, []⟩ => ⟨above + 1, []⟩
  | ⟨above, _ :: names⟩ => ⟨above, names⟩

/-- The place with a name in a folder. -/
def child (place : Place) (name : String) : Place := ⟨place.above, name :: place.names⟩

/-- The place after one part of a path. -/
def follow (place : Place) (part : String) : Place :=
  if part = "" ∨ part = "." then place
  else if part = ".." then place.parent
  else place.child part

/-- Where the path of a file leads when all folders on the way are there. -/
def ofPath (path : String) : Place := (path.splitOn "/").foldl follow here

/-- Whether a place lies in the folder at another place, however deep. -/
def isInside (place folder : Place) : Bool :=
  place.above = folder.above && folder.names.length < place.names.length &&
    folder.names.isSuffixOf place.names

end Place

namespace Folder

/-- The most bytes of a name, and the first number of bytes that no path has. -/
def longestName : Nat := 255

@[inherit_doc longestName] def pathBound : Nat := 4096

/-- The text of the file at a place. -/
def textAt? (folder : Folder) (place : Place) : Option String :=
  (folder.files.find? fun file => Place.ofPath file.1 = place).map Prod.snd

/-- Whether a place is a folder; all folders around the working directory are there. -/
def isFolder (folder : Folder) (place : Place) : Bool :=
  place.names.isEmpty || folder.files.any fun file => (Place.ofPath file.1).isInside place

/-- Go through one part of a path to a folder. -/
def enter (folder : Folder) (place : Place) (part : String) : Except PathRefusal Place :=
  let next := place.follow part
  if longestName < part.utf8ByteSize then .error .nameTooLong
  else if folder.isFolder next then .ok next
  else if (folder.textAt? next).isSome then .error .notFolder
  else .error .missing

/-- The folder that the last part of a path is looked up in, and that part. -/
def walk (folder : Folder) (path : String) : Except PathRefusal (Place × String) := do
  if path.contains '\x00' then throw .hasNull
  if pathBound ≤ path.utf8ByteSize then throw .nameTooLong
  if path = "" then throw .missing
  let parts := path.splitOn "/"
  let place ← parts.dropLast.foldlM folder.enter Place.here
  return (place, parts.getLast?.getD "")

/-- The text of the file at a path; paths from the root lead to no file of the folder. -/
def text? (folder : Folder) (path : String) : Option String :=
  if path.startsWith "/" then none
  else
    match folder.walk path with
    | .ok (place, last) => folder.textAt? (place.follow last)
    | .error _ => none

/-- The folder with a text at a path, in place of the text before. -/
def write (folder : Folder) (path text : String) : Folder :=
  let place := Place.ofPath path
  ⟨(path, text) :: folder.files.filter fun file => Place.ofPath file.1 ≠ place⟩

/-- A path without the parts behind its last name. -/
def withoutEndSlashes (path : String) : String :=
  String.ofList (path.toList.reverse.dropWhile (· = '/')).reverse

/-- Why a file cannot be created at a path below the working directory. -/
def refusalBelow? (folder : Folder) (path : String) : Option PathRefusal :=
  match folder.walk (withoutEndSlashes path) with
  | .error refusal => some refusal
  | .ok (place, last) =>
    if path.endsWith "/" ∨ folder.isFolder (place.follow last) then some .isFolder
    else if longestName < last.utf8ByteSize then some .nameTooLong
    else none

/-- Why a file cannot be created at a path. -/
def refusal? (folder : Folder) (path : String) : Option String :=
  if path.startsWith "/" then none else (folder.refusalBelow? path).map PathRefusal.message

end Folder

end MemoryFabric

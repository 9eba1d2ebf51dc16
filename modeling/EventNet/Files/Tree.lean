import EventNet.Files.Basic
import EventNet.LabelMap

/-!
# File trees

A file tree holds texts and directories by place, which is the list of names from the
root. A path is followed name by name: every place on the way must be a directory, a
point stays, and two points lead one directory up.

A file is written together with the directories above it. Only what is missing is made,
from the outside to the inside.
-/

set_option autoImplicit false

namespace EventNet

/-- What is at a place of a file tree. -/
inductive FileEntry where
  | file (text : String)
  | directory
  deriving DecidableEq

/-- The entries of a file tree by the texts of their places. The root has no entry. -/
structure FileTree where
  entries : LabelMap FileEntry
  deriving DecidableEq

/-- A change of a file tree that may fail. What has changed before it fails stays. -/
abbrev FileAction (α : Type) := ExceptT FileError (StateM FileTree) α

namespace FileTree

/-- The tree without files. -/
def empty : FileTree := ⟨LabelMap.empty⟩

instance : Inhabited FileTree := ⟨empty⟩

/-- The text of a place. -/
def placeText (place : List String) : String := "/".intercalate place

/-- What is at a place. -/
def at? (tree : FileTree) (place : List String) : Option FileEntry :=
  if place.isEmpty then some .directory else tree.entries.find? (placeText place)

/-- The tree with something at a place. -/
def put (tree : FileTree) (place : List String) (entry : FileEntry) : FileTree :=
  ⟨tree.entries.insert (placeText place) entry⟩

/-- The place that a name leads to from another place. -/
def follow (tree : FileTree) (place : List String) (name : String) :
    Except FileError (List String) :=
  match tree.at? place with
  | none => .error .notFound
  | some (.file _) => .error .notADirectory
  | some .directory =>
    if name = "" ∨ name = "." then .ok place
    else if name = ".." then .ok place.dropLast
    else .ok (place ++ [name])

/-- The place that names lead to from the root. -/
def placeOf (tree : FileTree) (names : List String) : Except FileError (List String) :=
  names.foldlM tree.follow []

/-- The place that a path leads to. The empty path leads nowhere. -/
def locate (tree : FileTree) (path : String) : Except FileError (List String) :=
  if path.isEmpty then .error .notFound else tree.placeOf (path.splitOn "/")

/-- There is a file or directory at a path. -/
def isPresent (tree : FileTree) (path : String) : Bool :=
  match tree.locate path with
  | .error _ => false
  | .ok place => (tree.at? place).isSome

/-- The text of the file at a path. -/
def read (tree : FileTree) (path : String) : Except FileError String := do
  let place ← tree.locate path
  match tree.at? place with
  | none => .error .notFound
  | some .directory => .error .isADirectory
  | some (.file text) => .ok text

/-- Names lead to a directory. -/
def isDirectory (tree : FileTree) (names : List String) : Bool :=
  match tree.placeOf names with
  | .error _ => false
  | .ok place => tree.at? place == some .directory

/-- The files with their paths, in the order of the paths. -/
def files (tree : FileTree) : List (String × String) :=
  let files := tree.entries.entries.filterMap fun (path, entry) =>
    match entry with
    | .file text => some (path, text)
    | .directory => none
  files.mergeSort fun first second => !(second.1 < first.1)

end FileTree

namespace FileAction

/-- Makes a directory in one that exists. -/
def makeDirectory (names : List String) : FileAction Unit := do
  let tree ← getThe FileTree
  let place ← (tree.placeOf names : Except FileError (List String))
  if (tree.at? place).isSome then throw .alreadyExists
  else set (tree.put place .directory)

/-- Makes a directory unless there is one. -/
def ensureDirectory (names : List String) : FileAction Unit := do
  try makeDirectory names
  catch error =>
    if (← getThe FileTree).isDirectory names then pure () else throw error

/-- Makes a directory, given by its names from the last to the first, and those above it. -/
def makeDirectories : List String → FileAction Unit
  | [] => pure ()
  | name :: above => do
    try ensureDirectory (name :: above).reverse
    catch
      | .notFound => do
        makeDirectories above
        ensureDirectory (name :: above).reverse
      | error => throw error

/-- Writes a text to the file at a path in a directory that exists. -/
def createFile (path text : String) : FileAction Unit := do
  let tree ← getThe FileTree
  let place ← (tree.locate path : Except FileError (List String))
  if tree.at? place = some .directory then throw .isADirectory
  else set (tree.put place (.file text))

/-- Writes a text to the file at a path, and makes the directories above it. -/
def write (path text : String) : FileAction Unit := do
  makeDirectories (parentNames path).reverse
  if path.endsWith "/" then throw .isADirectory
  createFile path text

end FileAction

/-- A tree with files. -/
def FileTree.ofFiles (files : List (String × String)) : FileTree :=
  files.foldl (fun tree (path, text) => (FileAction.write path text).run.run tree |>.2) empty

end EventNet

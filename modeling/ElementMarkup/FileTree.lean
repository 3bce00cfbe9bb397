import ElementMarkup.Fault
import ElementMarkup.Path

/-!
# File trees

Files and directories with the place of the working directory among them. A path is followed part
by part: two dots lead to the parent, and every part but the last has to be a directory.
-/

namespace ElementMarkup

/-- What stands at a place of a file tree. -/
inductive FileEntry where
  | file (content : List UInt8)
  | directory
  deriving DecidableEq, Repr

/-- Files and directories by their places below the root, and the place of the working directory.
Directories that hold something, or the working directory, need no entry of their own. -/
structure FileTree where
  home : List String
  entries : List (List String × FileEntry)

namespace FileTree

/-- The tree without files. -/
def empty : FileTree :=
  ⟨["home"], []⟩

/-- What stands at a place. -/
def entry? (tree : FileTree) (place : List String) : Option FileEntry :=
  match tree.entries.lookup place with
  | some entry => some entry
  | none =>
    if place.isPrefixOf tree.home || tree.entries.any fun (other, _) => place.isPrefixOf other then
      some .directory
    else none

/-- Why a path leads nowhere. -/
inductive Obstacle where
  | missing
  | notDirectory
  deriving DecidableEq, Repr

/-- The place that parts lead to from a place. The root is its own parent. -/
def walk (tree : FileTree) : List String → List String → Except Obstacle (List String)
  | place, [] => .ok place
  | place, part :: parts =>
    match tree.entry? place with
    | some .directory =>
      if part = ".." then walk tree place.dropLast parts
      else walk tree (place ++ [part]) parts
    | some (.file _) => .error .notDirectory
    | none => .error .missing

/-- The place that a path leads to, from the root or from the working directory. -/
def locate (tree : FileTree) (path : Path) : Except Obstacle (List String) :=
  tree.walk (if path.isAbsolute then [] else tree.home) path.parts

/-- What stands at the end of a path. -/
def find? (tree : FileTree) (path : Path) : Option FileEntry :=
  match tree.locate path with
  | .ok place => tree.entry? place
  | .error _ => none

/-- The content of the file at the end of a path, if there is a file. -/
def file? (tree : FileTree) (path : Path) : Option (List UInt8) :=
  match tree.find? path with
  | some (.file content) => some content
  | _ => none

/-- The fault for a path that leads nowhere. -/
def Obstacle.fault (path : Path) : Obstacle → Fault
  | missing => .file (.absent path.text)
  | notDirectory => .file (.belowFile path.text)

/-- The content of the file at the end of a path. -/
def read (tree : FileTree) (path : Path) : Except Fault (List UInt8) := do
  if path.hasNull then throw .nullInPath
  match tree.locate path with
  | .error obstacle => .error (obstacle.fault path)
  | .ok place =>
    match tree.entry? place with
    | some (.file content) => .ok content
    | some .directory => .error (.file (.directory path.text))
    | none => .error (.file (.absent path.text))

/-- The tree with an entry at a place, in place of what was there. -/
def insert (tree : FileTree) (place : List String) (entry : FileEntry) : FileTree :=
  { tree with entries := (place, entry) :: tree.entries.filter fun (other, _) => other ≠ place }

/-- The tree with a file at the end of a path. The directory that is to hold it has to be there. -/
def write (tree : FileTree) (path : Path) (content : List UInt8) : Except Fault FileTree := do
  if path.hasNull then throw .nullInPath
  match tree.locate path with
  | .error obstacle => .error (obstacle.fault path)
  | .ok place =>
    match tree.entry? place with
    | some .directory => .error (.file (.directory path.text))
    | _ => .ok (tree.insert place (.file content))

/-- The places of the files below a place, as parts that follow it. -/
def filesBelow (tree : FileTree) (place : List String) : List (List String) :=
  tree.entries.filterMap fun (other, entry) =>
    match entry with
    | .file _ =>
      if place.isPrefixOf other && place.length < other.length then some (other.drop place.length)
      else none
    | .directory => none

end FileTree

end ElementMarkup

/-
**A tree of files and directories.**

Every file and directory below the top directory has a location, the names that lead to it. An
operation takes a path, walks it from the top, and either fails and changes nothing or gives the
tree after it. The top directory is its own parent. All directories have one owner, who walks; a
step from a directory needs its permission to search, whatever the step leads to.

This assumes an environment of files and directories only, each under one name: there are no
symbolic links, hard links or devices. Files are not protected by permission bits, as directories
are. A file that could be opened or created is read or written to its end, since space does not run
out and no device fails. Nothing else changes the tree while an operation is at work.

* `FileTree.find`: what is at a location;
* `FileTree.allows`: what the permission bits of a directory grant;
* `FileTree.locate`, `FileTree.resolve`: what a path leads to;
* `status`, `readFile`: the questions that paths ask.
-/

import StoreTopology.FileTree.Path
import StoreTopology.SortedMap

namespace StoreTopology

/-- The names that lead from the top directory to a file or directory. -/
abbrev Location := List String

/-- Locations are in the order of the walk that visits the entries of a directory by name, each of
them before what is below it. -/
instance : LE Location := List.instLE

/-- A file with its contents, or a directory with its permission bits. -/
inductive FileNode where
  | file (contents : ByteArray)
  | directory (mode : Nat)

/-- The permission bits of the top directory, those that no new directory grants, and everything
below the top. -/
structure FileTree where
  topMode : Nat := 0o755
  umask : Nat := 0o022
  nodes : SortedMap Location FileNode := .empty

/-- What the last step of a path leads to. -/
inductive PathTarget where
  /-- An entry of a directory, which may be missing. -/
  | entry (parent : Location) (name : String) (slash : Bool)
  /-- A directory, by a step that does not name it. -/
  | directory (location : Location)
deriving DecidableEq, Repr

/-- What the owner of a directory may do with it: list its entries, add and remove entries, and
reach them. -/
inductive Access where
  | read
  | write
  | search
deriving DecidableEq, Repr

/-- The permission bit that grants an access to the owner. -/
def Access.bit : Access → Nat
  | read => 0o400
  | write => 0o200
  | search => 0o100

/-- Permission bits grant an access to the owner. -/
def Access.isGrantedBy (access : Access) (mode : Nat) : Bool := mode &&& access.bit != 0

namespace FileTree

/-- A new top directory, without entries. -/
def empty : FileTree := {}

/-! ### Permissions -/

/-- What is at a location. -/
def find (tree : FileTree) (location : Location) : Option FileNode :=
  if location = [] then some (.directory tree.topMode) else tree.nodes.get? location

/-- The permission bits of a directory. -/
def modeAt (tree : FileTree) (location : Location) : Nat :=
  match tree.find location with
  | some (.directory mode) => mode
  | _ => 0

/-- A directory grants an access. -/
def allows (tree : FileTree) (location : Location) (access : Access) : Bool :=
  access.isGrantedBy (tree.modeAt location)

/-- Go on only if a directory grants an access. -/
def require (tree : FileTree) (location : Location) (access : Access) : Except FileProblem Unit :=
  if tree.allows location access then .ok () else .error .permissionDenied

/-! ### Walking -/

/-- Names of entries may have this many bytes. -/
def nameLimit : Nat := 255

/-- What an entry of a directory is. -/
def findEntry (tree : FileTree) (parent : Location) (name : String) :
    Except FileProblem (Option FileNode) :=
  if nameLimit < name.utf8ByteSize then .error .nameTooLong else .ok (tree.find (parent ++ [name]))

/-- The directory that a step leads to. -/
def enter (tree : FileTree) (current : Location) (step : PathStep) :
    Except FileProblem Location := do
  tree.require current .search
  match step with
  | .stay => return current
  | .up => return current.dropLast
  | .down name =>
    match ← tree.findEntry current name with
    | some (.directory _) => return current ++ [name]
    | some (.file _) => throw .notDirectory
    | none => throw .notFound

/-- The directory that steps lead to. -/
def walk (tree : FileTree) (current : Location) : List PathStep → Except FileProblem Location
  | [] => .ok current
  | step :: rest => do
    let next ← tree.enter current step
    tree.walk next rest

/-- What a path leads to. Its last step is not taken, but has to be allowed. -/
def locate (tree : FileTree) (path : Path) : Except FileProblem PathTarget := do
  let parent ← tree.walk [] path.steps.dropLast
  match path.steps.getLast? with
  | none => return .directory parent
  | some step =>
    tree.require parent .search
    match step with
    | .stay => return .directory parent
    | .up => return .directory parent.dropLast
    | .down name => return .entry parent name path.slash

/-- The location and the node of a path, which has to lead to something. -/
def resolve (tree : FileTree) (path : Path) : Except FileProblem (Location × FileNode) := do
  match ← tree.locate path with
  | .directory location =>
    match tree.find location with
    | some node => return (location, node)
    | none => throw .notFound
  | .entry parent name slash =>
    match ← tree.findEntry parent name with
    | some (.file contents) =>
      if slash then throw .notDirectory else return (parent ++ [name], .file contents)
    | some (.directory mode) => return (parent ++ [name], .directory mode)
    | none => throw .notFound

/-! ### Questions -/

/-- The file or directory that a text leads to. -/
def status (tree : FileTree) (text : String) : Except FileProblem FileNode := do
  let path ← Path.read text
  let (_, node) ← tree.resolve path
  return node

/-- A path leads to something. -/
def pathExists (tree : FileTree) (text : String) : Bool := (tree.status text).isOk

/-- A path leads to a directory. -/
def leadsToDirectory (tree : FileTree) (path : Path) : Bool :=
  match tree.resolve path with
  | .ok (_, .directory _) => true
  | _ => false

/-- The contents of a file. A directory is refused for what it is only if it may be read at all. -/
def readFile (tree : FileTree) (text : String) : Except FileProblem ByteArray := do
  match ← tree.status text with
  | .file contents => return contents
  | .directory mode =>
    throw (if Access.read.isGrantedBy mode then .isDirectory else .permissionDenied)

end FileTree

end StoreTopology

/-
**Changes of one file or directory.**

An entry is added to a directory and removed from it only if the directory grants its owner to
write. A missing, too long or otherwise unfit entry is found before that.

* `writeFile`, `renameFile`, `removeFile`: files;
* `makeDirectory`, `removeDirectory`, `setMode`: directories;
* `makeDirectories`: a directory and those that its path leads through, which may fail after a part
  of its work.
-/

import StoreTopology.FileTree.Basic

namespace StoreTopology

namespace FileTree

/-- The tree with a node at a location below the top. -/
def put (tree : FileTree) (location : Location) (node : FileNode) : FileTree :=
  { tree with nodes := tree.nodes.insert location node }

/-- The tree without the node at a location below the top. -/
def erase (tree : FileTree) (location : Location) : FileTree :=
  { tree with nodes := tree.nodes.erase location }

/-! ### Files -/

/-- Create a file or replace its contents. -/
def writeFile (tree : FileTree) (text : String) (contents : ByteArray) :
    Except FileProblem FileTree := do
  let path ← Path.read text
  match ← tree.locate path with
  | .directory _ => throw .isDirectory
  | .entry parent name slash =>
    if slash then throw .isDirectory
    match ← tree.findEntry parent name with
    | some (.directory _) => throw .isDirectory
    | some (.file _) => return tree.put (parent ++ [name]) (.file contents)
    | none =>
      tree.require parent .write
      return tree.put (parent ++ [name]) (.file contents)

/-- Give a file another path, in place of a file that is there. -/
def renameFile (tree : FileTree) (source target : String) : Except FileProblem FileTree := do
  let sourcePath ← Path.read source
  let targetPath ← Path.read target
  let sourceTarget ← tree.locate sourcePath
  let targetTarget ← tree.locate targetPath
  match sourceTarget, targetTarget with
  | .entry parent name slash, .entry parent' name' slash' =>
    match ← tree.findEntry parent name with
    | none => throw .notFound
    | some (.directory _) => throw .isDirectory
    | some (.file contents) =>
      let replaced ← tree.findEntry parent' name'
      if slash || slash' then throw .notDirectory
      tree.require parent .write
      tree.require parent' .write
      match replaced with
      | some (.directory _) => throw .isDirectory
      | _ => return (tree.erase (parent ++ [name])).put (parent' ++ [name']) (.file contents)
  | _, _ => throw .busy

/-- Remove a file. -/
def removeFile (tree : FileTree) (text : String) : Except FileProblem FileTree := do
  let path ← Path.read text
  match ← tree.locate path with
  | .directory _ => throw .isDirectory
  | .entry parent name slash =>
    match ← tree.findEntry parent name with
    | none => throw .notFound
    | some (.directory _) =>
      unless slash do tree.require parent .write
      throw .isDirectory
    | some (.file _) =>
      if slash then throw .notDirectory
      tree.require parent .write
      return tree.erase (parent ++ [name])

/-! ### Directories -/

/-- The permission bits of a new directory: those asked for without the umask, and the group
inheritance of its parent. -/
def newMode (umask requested parentMode : Nat) : Nat :=
  ((requested &&& 0o1777) &&& (0o7777 ^^^ umask)) ||| (parentMode &&& 0o2000)

/-- Create a directory in one that is there. -/
def makeDirectory (tree : FileTree) (path : Path) (mode : Nat) : Except FileProblem FileTree := do
  match ← tree.locate path with
  | .directory _ => throw .alreadyExists
  | .entry parent name _ =>
    match ← tree.findEntry parent name with
    | some _ => throw .alreadyExists
    | none =>
      tree.require parent .write
      return tree.put (parent ++ [name]) (.directory (newMode tree.umask mode (tree.modeAt parent)))

/-- Create the directory of the first path, and before it those of the further paths as far as
they are missing. -/
def makeChain (tree : FileTree) (mode : Nat) : List Path → Except FileProblem Unit × FileTree
  | [] => (.ok (), tree)
  | path :: ancestors =>
    match tree.makeDirectory path mode with
    | .ok made => (.ok (), made)
    | .error .notFound =>
      match makeChain tree mode ancestors with
      | (.error problem, next) => (.error problem, next)
      | (.ok _, next) =>
        match next.makeDirectory path mode with
        | .ok made => (.ok (), made)
        | .error problem =>
          if next.leadsToDirectory path then (.ok (), next) else (.error problem, next)
    | .error problem =>
      if tree.leadsToDirectory path then (.ok (), tree) else (.error problem, tree)

/-- Create a directory and those that its path leads through. The empty path asks for nothing. -/
def makeDirectories (tree : FileTree) (text : String) (mode : Nat) :
    Except FileProblem Unit × FileTree :=
  if text.isEmpty then (.ok (), tree)
  else match Path.read text with
    | .error problem => (.error problem, tree)
    | .ok path => tree.makeChain mode (path :: path.ancestors)

/-- The files and directories below a location, a directory before what it holds. -/
def below (tree : FileTree) (location : Location) : List (Location × FileNode) :=
  tree.nodes.entries.filter fun entry => location.isPrefixOf entry.1 && entry.1 != location

/-- Remove a directory without entries. A path whose last step does not name the directory cannot
remove it. -/
def removeDirectory (tree : FileTree) (path : Path) : Except FileProblem FileTree := do
  match ← tree.locate path with
  | .directory _ =>
    match path.steps.getLast? with
    | some .up => throw .notEmpty
    | some _ => throw .invalidArgument
    | none => throw .busy
  | .entry parent name _ =>
    match ← tree.findEntry parent name with
    | none => throw .notFound
    | some node =>
      tree.require parent .write
      match node with
      | .file _ => throw .notDirectory
      | .directory _ =>
        if (tree.below (parent ++ [name])).isEmpty then return tree.erase (parent ++ [name])
        else throw .notEmpty

/-- Give a directory permission bits, of which there are twelve. Those of files are not kept. -/
def setMode (tree : FileTree) (text : String) (mode : Nat) : Except FileProblem FileTree := do
  let path ← Path.read text
  match ← tree.resolve path with
  | (_, .file _) => return tree
  | ([], .directory _) => return { tree with topMode := mode &&& 0o7777 }
  | (location, .directory _) => return tree.put location (.directory (mode &&& 0o7777))

end FileTree

end StoreTopology

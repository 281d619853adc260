/-
**Everything below a directory.**

To list a directory its owner has to be granted to read it, and to reach what it holds, to search
it. A removal works from the entries to the directory that holds them; the first one that cannot be
removed ends it, and what was removed until then stays removed.

* `listing`: all files and directories;
* `removeAll`: remove a directory with all below it;
* `emptied`: what is left after all of it has been asked to go.
-/

import StoreTopology.FileTree.Changes

namespace StoreTopology

namespace FileTree

/-! ### Listing -/

/-- The directory at a location can be listed, with what its entries are. -/
def isListable (tree : FileTree) (location : Location) : Bool :=
  tree.allows location .read && (tree.allows location .search || (tree.below location).isEmpty)

/-- All files and directories below the top, a directory before what it holds. The top directory is
reached by a step that stays there. -/
def listing (tree : FileTree) : Except FileProblem (List (Location × FileNode)) := do
  let top ← tree.enter [] .stay
  let listable := tree.isListable top && tree.nodes.entries.all fun entry =>
    match entry.2 with
    | .directory _ => tree.isListable entry.1
    | .file _ => true
  if listable then return tree.nodes.entries else throw .permissionDenied

/-! ### Removal -/

/-- The directories from one location down to the one that holds another below it. -/
def directoriesBetween (top location : Location) : List Location :=
  ((List.range location.length).drop top.length).map fun count => location.take count

/-- The removal of a directory can reach a node below it and remove it. -/
def isRemovable (tree : FileTree) (top : Location) (entry : Location × FileNode) : Bool :=
  let reached := (directoriesBetween top entry.1).all fun above =>
    tree.allows above .read && tree.allows above .search
  let listed := match entry.2 with
    | .directory _ => tree.allows entry.1 .read
    | .file _ => true
  reached && listed && tree.allows entry.1.dropLast .write

/-- Remove all below a directory. -/
def clear (tree : FileTree) (location : Location) : Except FileProblem Unit × FileTree :=
  let inOrder := (tree.below location).reverse
  let removed := inOrder.takeWhile (tree.isRemovable location)
  let cleared := removed.foldl (fun rest entry => rest.erase entry.1) tree
  if tree.allows location .read && removed.length = inOrder.length then (.ok (), cleared)
  else (.error .permissionDenied, cleared)

/-- Remove a directory with all below it. A path that leads through what is removed leads nowhere
in the end, and leaves the directory without entries. -/
def removeAll (tree : FileTree) (text : String) : Except FileProblem Unit × FileTree :=
  match Path.read text with
  | .error problem => (.error problem, tree)
  | .ok path =>
    match tree.resolve path with
    | .error problem => (.error problem, tree)
    | .ok (_, .file _) => (.error .notDirectory, tree)
    | .ok (location, .directory _) =>
      match tree.clear location with
      | (.error problem, cleared) => (.error problem, cleared)
      | (.ok _, cleared) =>
        match cleared.removeDirectory path with
        | .ok removed => (.ok (), removed)
        | .error .notFound => (.ok (), cleared)
        | .error problem => (.error problem, cleared)

/-- Remove a file, or a directory with all below it. -/
def remove (tree : FileTree) (text : String) : Except FileProblem Unit × FileTree :=
  match tree.status text with
  | .error problem => (.error problem, tree)
  | .ok (.directory _) => tree.removeAll text
  | .ok (.file _) =>
    match tree.removeFile text with
    | .error problem => (.error problem, tree)
    | .ok removed => (.ok (), removed)

/-- The tree as it is to be used anew: the top directory has its first permission bits again, and
every entry of it has been asked to go. -/
def emptied (tree : FileTree) : FileTree :=
  let names := (tree.nodes.keys.filter fun location => location.length = 1).flatten
  names.foldl (fun rest name => (rest.remove name).2)
    { umask := tree.umask, nodes := tree.nodes }

end FileTree

end StoreTopology

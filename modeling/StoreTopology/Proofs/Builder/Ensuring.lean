/-
**Blob directories get exactly the permission bits that were asked for.**

* `FileTree.AddsDirectories`: a tree has everything that another one has, as it is there, and no
  more than directories besides;
* `FileTree.AddsDirectories.makeDirectories`: to make a directory with those on its way adds
  directories, also if it fails in the middle;
* `FileTree.directory_of_prefix`: a path that leads to a directory leads through directories;
* `FileTree.EnsuresDirectory`: what a blob directory that was made is, and what was left alone;
* `Builder.ensuresDirectory`: whatever permissions new directories are denied, and whatever was
  there before.
-/

import StoreTopology.Proofs.Builder.Repeating

namespace StoreTopology

namespace FileTree

variable {tree before after : FileTree} {text : String} {path : Path} {mode : Nat}

/-! ### Trees with more directories -/

/-- Everything that was there is there as it was, and what is new are directories. -/
structure AddsDirectories (before after : FileTree) : Prop where
  kept {location : Location} {node : FileNode} (there : before.find location = some node) :
    after.find location = some node
  added {location : Location} {node : FileNode} (missing : before.find location = none)
    (there : after.find location = some node) : ∃ bits, node = .directory bits

namespace AddsDirectories

theorem refl (tree : FileTree) : AddsDirectories tree tree where
  kept there := there
  added missing there := by
    rw [missing] at there
    cases there

theorem trans {between : FileTree} (first : AddsDirectories before between)
    (next : AddsDirectories between after) : AddsDirectories before after where
  kept there := next.kept (first.kept there)
  added {location node} missing there := by
    cases found : between.find location with
    | none => exact next.added found there
    | some other =>
      obtain ⟨bits, rfl⟩ := first.added missing found
      rw [next.kept found] at there
      exact ⟨bits, (Option.some.inj there).symm⟩

/-- A directory where nothing was. -/
theorem put {location : Location} (notTop : location ≠ []) (free : tree.find location = none)
    (bits : Nat) : AddsDirectories tree (tree.put location (.directory bits)) where
  kept {other node} there := by
    have elsewhere : location ≠ other := by
      rintro rfl
      rw [free] at there
      cases there
    rw [find_put notTop, if_neg elsewhere, there]
  added {other node} missing there := by
    rw [find_put notTop] at there
    by_cases here : location = other
    · rw [if_pos here] at there
      exact ⟨bits, (Option.some.inj there).symm⟩
    · rw [if_neg here, missing] at there
      cases there

theorem makeDirectory {made : FileTree} (succeeded : tree.makeDirectory path mode = .ok made) :
    AddsDirectories tree made := by
  unfold FileTree.makeDirectory at succeeded
  obtain ⟨target, _, went⟩ := bind_eq_ok.mp succeeded
  cases target with
  | directory place => cases went
  | entry parent name slash =>
    obtain ⟨found, looked, went⟩ := bind_eq_ok.mp went
    cases found with
    | some node => cases went
    | none =>
      obtain ⟨_, _, isMade⟩ := bind_eq_ok.mp went
      cases isMade
      exact .put LeadsTo.notTop (findEntry_eq_ok_iff.mp looked).2 _

/-- By induction on the paths: those above are made before the first one is tried again. -/
theorem makeChain (tree : FileTree) (mode : Nat) (paths : List Path) :
    AddsDirectories tree (tree.makeChain mode paths).2 := by
  induction paths with
  | nil => exact .refl tree
  | cons path ancestors ih =>
    rw [FileTree.makeChain]
    split
    · next made succeeded => exact .makeDirectory succeeded
    · split
      · next problem next failed =>
        rw [failed] at ih
        exact ih
      · next next ancestorsMade =>
        rw [ancestorsMade] at ih
        split
        · next made succeeded => exact ih.trans (.makeDirectory succeeded)
        · split <;> exact ih
    · split <;> exact .refl tree

/-- Making a directory and those that its path leads through adds directories and does nothing
else, also if it fails in the middle. -/
theorem makeDirectories (tree : FileTree) (text : String) (mode : Nat) :
    AddsDirectories tree (tree.makeDirectories text mode).2 := by
  unfold FileTree.makeDirectories
  split
  · exact .refl tree
  · split
    · exact .refl tree
    · exact .makeChain tree mode _

end AddsDirectories

/-! ### Directories on the way -/

theorem IsReached.directory {location : Location} (isReached : IsReached tree location) :
    ∃ bits, tree.find location = some (.directory bits) := by
  have whole := isReached location.length
  rwa [List.take_length] at whole

/-- All locations on a walk are directories. -/
theorem directory_of_walk {current reached : Location} {steps : List PathStep}
    (isReached : IsReached tree current) (walked : tree.walk current steps = .ok reached)
    (count : Nat) :
    ∃ bits, tree.find ((steps.take count).foldl PathStep.follow current) =
      some (.directory bits) := by
  induction steps generalizing current count with
  | nil =>
    rw [List.take_nil]
    exact isReached.directory
  | cons step rest ih =>
    cases count with
    | zero => exact isReached.directory
    | succ count =>
      obtain ⟨next, entered, went⟩ := bind_eq_ok.mp walked
      rw [List.take_succ_cons, List.foldl_cons, ← eq_follow_of_enter entered]
      exact ih (isReached.enter entered) went count

/-- A path that leads to a directory leads through directories. -/
theorem directory_of_prefix {location : Location} {held : Nat}
    (resolved : tree.resolve path = .ok (location, .directory held)) (count : Nat) :
    ∃ bits, tree.find (Path.target ⟨path.steps.take count, false⟩) = some (.directory bits) := by
  by_cases whole : path.steps.length ≤ count
  · obtain ⟨rfl, found⟩ := target_of_resolve resolved
    rw [List.take_of_length_le whole]
    exact ⟨held, found⟩
  · obtain ⟨target, located, _⟩ := bind_eq_ok.mp resolved
    obtain ⟨parent, walked, _⟩ := bind_eq_ok.mp located
    have onWay : path.steps.take count = path.steps.dropLast.take count := by
      rw [List.dropLast_eq_take, List.take_take, Nat.min_eq_left (by omega)]
    rw [Path.target, onWay]
    exact directory_of_walk .top walked count

/-! ### Blob directories -/

/-- What it takes that a text leads to a directory with exactly the permission bits that were asked
for, and that nothing else has changed. -/
structure EnsuresDirectory (text : String) (path : Path) (mode : Nat) (before after : FileTree) :
    Prop where
  read : Path.read text = .ok path
  /-- The permission bits are given to no file: the directory is new, or was one before. -/
  noFile (contents : ByteArray) : before.find path.target ≠ some (.file contents)
  /-- The path leads to a directory with these permission bits. -/
  found : after.find path.target = some (.directory (mode &&& 0o7777))
  /-- It leads through directories. -/
  through (count : Nat) :
    ∃ bits, after.find (Path.target ⟨path.steps.take count, false⟩) = some (.directory bits)
  /-- Files are what they were. -/
  files {location : Location} {contents : ByteArray}
    (there : before.find location = some (.file contents)) :
    after.find location = some (.file contents)
  /-- Other directories have the permission bits that they had. -/
  others {location : Location} {node : FileNode} (other : location ≠ path.target)
    (there : before.find location = some node) : after.find location = some node
  /-- What is new are directories. -/
  added {location : Location} {node : FileNode} (missing : before.find location = none)
    (there : after.find location = some node) : ∃ bits, node = .directory bits
  /-- The directory is reached, unless the permission bits withdraw the permission to search it and
  the path goes through it. -/
  status : after.status text = .ok (.directory (mode &&& 0o7777)) ∨
    after.status text = .error .permissionDenied ∧ Access.search.isGrantedBy mode = false

/-- A directory that was made is what a path leads to, unless it cannot be searched any more. -/
theorem HoldsDirectory.status (holds : HoldsDirectory before after text path mode) :
    after.status text = .ok (.directory (mode &&& 0o7777)) ∨
      after.status text = .error .permissionDenied ∧ Access.search.isGrantedBy mode = false := by
  rcases holds.resolve with exists_ | ⟨refused, withdraws⟩
  · obtain ⟨location, node, resolved⟩ := (pathExists_iff holds.read).mp exists_
    obtain ⟨rfl, there⟩ := target_of_resolve resolved
    cases holds.found.symm.trans there
    exact .inl (bind_eq_ok.mpr ⟨path, holds.read, bind_eq_ok.mpr ⟨_, resolved, rfl⟩⟩)
  · have unresolved : after.resolve path = .error .permissionDenied :=
      bind_eq_error.mpr (.inl refused)
    refine .inr ⟨bind_eq_error.mpr (.inr ⟨path, holds.read, bind_eq_error.mpr (.inl unresolved)⟩),
      Bool.eq_false_iff.mpr fun granted => holds.searched granted withdraws⟩

/-- A directory is made with those on its way, and then given the permission bits: the second step
changes only the directory that the path leads to, which was a directory before if it was there. -/
theorem EnsuresDirectory.of_setMode {made : FileTree}
    (succeeded : before.makeDirectories text mode = (.ok (), made))
    (given : made.setMode text mode = .ok after) :
    ∃ path, EnsuresDirectory text path mode before after := by
  have adds : AddsDirectories before made := by
    have always := AddsDirectories.makeDirectories before text mode
    rwa [succeeded] at always
  obtain ⟨path, holds⟩ := holdsDirectory succeeded given
  obtain ⟨held, resolved⟩ := holds.resolved
  have isDirectory : made.find path.target = some (.directory held) :=
    (target_of_resolve resolved).2
  have noFile : ∀ contents, before.find path.target ≠ some (.file contents) := by
    intro contents there
    cases isDirectory.symm.trans (adds.kept there)
  have changes := find_of_setMode holds.read resolved given
  refine ⟨path, holds.read, noFile, holds.found, fun count => ?_, fun there => ?_,
    fun other there => ?_, fun {location node} missing there => ?_, holds.status⟩
  · obtain ⟨bits, there⟩ := directory_of_prefix resolved count
    exact holds.stay _ bits there
  · rw [changes, if_neg, adds.kept there]
    rintro rfl
    exact noFile _ there
  · rw [changes, if_neg (Ne.symm other), adds.kept there]
  · rw [changes] at there
    by_cases here : path.target = location
    · rw [if_pos here] at there
      exact ⟨_, (Option.some.inj there).symm⟩
    · rw [if_neg here] at there
      exact adds.added missing there

end FileTree

namespace Builder

/-- Blob directories get exactly the permission bits that were asked for, whatever permissions new
directories are denied and whether or not they were there. Besides, and also on failure, nothing
that was there changes. -/
theorem ensuresDirectory (site : Site) (text : String) (mode : UInt32) :
    match ensureDirectory text mode site with
    | (.ok _, after) =>
      ∃ path, FileTree.EnsuresDirectory text path mode.toNat site.files after.files
    | (.error _, after) => FileTree.AddsDirectories site.files after.files := by
  have adds := FileTree.AddsDirectories.makeDirectories site.files text mode.toNat
  rw [ensureDirectory_apply]
  cases ran : site.files.makeDirectories text mode.toNat with
  | mk outcome made =>
    rw [ran] at adds
    cases outcome with
    | error problem => exact adds
    | ok _ =>
      dsimp only
      cases given : made.setMode text mode.toNat with
      | error problem => exact adds
      | ok files => exact FileTree.EnsuresDirectory.of_setMode ran given

/-- A directory on the way gets what the umask leaves of the permission bits. -/
example :
    let site : Site := { files := { umask := 0o077 } }
    let after := (ensureDirectory "data/blobs" 0o1777 site).2.files
    after.status "data" = .ok (.directory 0o1700) ∧
      after.status "data/blobs" = .ok (.directory 0o1777) := ⟨rfl, rfl⟩

end Builder

end StoreTopology

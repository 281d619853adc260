/-
**Paths that lead nowhere.**

* `LeadsNowhere`: what it takes for a path to lead nowhere;
* `locate_bind_eq_notFound_iff`: for what needs an entry that is there, nothing else is not found;
* `resolve_eq_notFound_iff`, `status_eq_notFound_iff`: so it is with questions;
* `LeadsTo.status_eq_notFound_iff`: a path that leads to an entry leads nowhere if nothing is there;
* `removeFile_eq_notFound_iff`, `removeDirectory_eq_notFound_iff`: so it is with removals.
-/

import StoreTopology.Proofs.FileTree.Replacing

namespace StoreTopology.FileTree

variable {tree : FileTree} {text name : String} {path : Path} {location parent : Location}

/-- Nothing is where a path leads to, or it leads through what is not there. -/
def LeadsNowhere (tree : FileTree) (path : Path) : Prop :=
  tree.locate path = .error .notFound ∨
    ∃ parent name slash, tree.locate path = .ok (.entry parent name slash) ∧
      tree.findEntry parent name = .ok none

theorem require_bind_ne_notFound {α : Type} {access : Access} {next : Unit → Except FileProblem α}
    (other : next () ≠ .error .notFound) :
    (tree.require location access >>= next) ≠ .error .notFound := by
  unfold FileTree.require
  split
  · exact other
  · nofun

/-- What needs an entry that is there does not find it exactly if it is missing. -/
theorem findEntry_bind_eq_notFound_iff {α : Type}
    {next : Option FileNode → Except FileProblem α} (missing : next none = .error .notFound)
    (present : ∀ node, next (some node) ≠ .error .notFound) :
    (tree.findEntry parent name >>= next) = .error .notFound ↔
      tree.findEntry parent name = .ok none := by
  unfold FileTree.findEntry
  split
  · exact ⟨nofun, nofun⟩
  · cases tree.find (parent ++ [name]) with
    | none => exact ⟨fun _ => rfl, fun _ => missing⟩
    | some node => exact ⟨fun failed => absurd failed (present node), nofun⟩

/-- What needs an entry that is there does not find it exactly if its path leads nowhere. -/
theorem locate_bind_eq_notFound_iff {α : Type} {next : PathTarget → Except FileProblem α}
    (atDirectory : ∀ place, IsReached tree place → next (.directory place) ≠ .error .notFound)
    (atEntry : ∀ parent name slash, next (.entry parent name slash) = .error .notFound ↔
      tree.findEntry parent name = .ok none) :
    (tree.locate path >>= next) = .error .notFound ↔ tree.LeadsNowhere path := by
  refine bind_eq_error.trans (or_congr_right ⟨?_, ?_⟩)
  · rintro ⟨target, located, failed⟩
    cases target with
    | directory place => exact absurd failed (atDirectory place (locate_directory located))
    | entry parent name slash => exact ⟨parent, name, slash, located, (atEntry _ _ _).mp failed⟩
  · rintro ⟨parent, name, slash, located, missing⟩
    exact ⟨_, located, (atEntry _ _ _).mpr missing⟩

theorem resolve_eq_notFound_iff :
    tree.resolve path = .error .notFound ↔ tree.LeadsNowhere path := by
  refine locate_bind_eq_notFound_iff (fun place reached failed => ?_) fun parent name slash =>
    findEntry_bind_eq_notFound_iff rfl fun node failed => ?_
  · obtain ⟨mode, here⟩ := reached place.length
    rw [List.take_length] at here
    dsimp only at failed
    rw [here] at failed
    cases failed
  · cases node with
    | directory mode => cases failed
    | file contents => cases slash <;> cases failed

theorem status_eq_notFound_iff :
    tree.status text = .error .notFound ↔
      Path.read text = .error .notFound ∨
        ∃ path, Path.read text = .ok path ∧ tree.LeadsNowhere path := by
  unfold status
  refine bind_eq_error.trans (or_congr_right (exists_congr fun path => and_congr_right fun _ => ?_))
  rw [← resolve_eq_notFound_iff]
  refine bind_eq_error.trans (or_iff_left ?_)
  rintro ⟨_, _, failed⟩
  cases failed

/-- A path that leads to an entry leads nowhere exactly if nothing is there. -/
theorem LeadsTo.status_eq_notFound_iff (leads : tree.LeadsTo text parent name) :
    tree.status text = .error .notFound ↔ tree.find (parent ++ [name]) = none := by
  obtain ⟨path, read, located, short⟩ := leads
  rw [FileTree.status_eq_notFound_iff]
  constructor
  · rintro (unread | ⟨_, readAgain, nowhere⟩)
    · cases read.symm.trans unread
    · cases read.symm.trans readAgain
      rcases nowhere with missing | ⟨_, _, _, locatedAgain, missing⟩
      · cases located.symm.trans missing
      · cases located.symm.trans locatedAgain
        exact (findEntry_eq_ok_iff.mp missing).2
  · intro missing
    exact .inr ⟨path, read, .inr ⟨_, _, _, located, findEntry_eq_ok_iff.mpr ⟨short, missing⟩⟩⟩

/-! ### Removals -/

/-- There is no file to remove if the path leads nowhere, and only then. -/
theorem removeFile_eq_notFound_iff :
    tree.removeFile text = .error .notFound ↔ tree.status text = .error .notFound := by
  rw [status_eq_notFound_iff]
  unfold removeFile
  refine bind_eq_error.trans (or_congr_right (exists_congr fun path => and_congr_right fun _ => ?_))
  refine locate_bind_eq_notFound_iff nofun fun parent name slash =>
    findEntry_bind_eq_notFound_iff rfl fun node => ?_
  cases node with
  | directory mode =>
    cases slash with
    | true => nofun
    | false => exact require_bind_ne_notFound nofun
  | file contents =>
    cases slash with
    | true => nofun
    | false => exact require_bind_ne_notFound nofun

/-- So it is with a directory. -/
theorem removeDirectory_eq_notFound_iff :
    tree.removeDirectory path = .error .notFound ↔ tree.LeadsNowhere path := by
  refine locate_bind_eq_notFound_iff (fun place _ failed => ?_) fun parent name slash =>
    findEntry_bind_eq_notFound_iff rfl fun node => require_bind_ne_notFound fun failed => ?_
  · dsimp only at failed
    split at failed <;> cases failed
  · cases node with
    | file contents => cases failed
    | directory mode =>
      dsimp only at failed
      split at failed <;> cases failed

end StoreTopology.FileTree

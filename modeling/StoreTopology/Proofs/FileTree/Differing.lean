/-
**Where two trees differ.**

A replacement that succeeds changes the entry of the file and leaves nothing at the entry of the
temporary file. One that fails changes at most the entry of the temporary file.

* `status_of_sameDirectories`: what a path leads to, in another tree with the same directories;
* `DifferOnlyAt`: two trees differ at most at the entries that some paths lead to;
* `differOnlyAt_of_replaceFile`, `differOnlyAt_of_replaceFile_error`: what a replacement changes;
* `status_temporaryPath_of_replaceFile`: the temporary file is gone after a replacement.
-/

import StoreTopology.Proofs.FileTree.Missing
import StoreTopology.Proofs.FileTree.Sparing

namespace StoreTopology.FileTree

variable {tree first second before after written : FileTree} {text other : String}
  {parent : Location} {name : String} {contents : ByteArray} {problem : FileProblem}

/-! ### What paths lead to -/

theorem SameDirectories.locate (same : SameDirectories first second) {path : Path}
    {target : PathTarget} (located : first.locate path = .ok target) :
    second.locate path = .ok target := by
  unfold FileTree.locate at located ⊢
  obtain ⟨reached, walked, went⟩ := bind_eq_ok.mp located
  refine bind_eq_ok.mpr ⟨reached, same.walk walked, ?_⟩
  split at went
  · exact went
  · obtain ⟨_, allowed, taken⟩ := bind_eq_ok.mp went
    have granted := same.allows reached .search ▸ require_eq_ok_iff.mp allowed
    exact bind_eq_ok.mpr ⟨(), require_eq_ok_iff.mpr granted, taken⟩

/-- What a path leads to is there as well in a tree with the same directories, unless it is a file
whose entry is another there. -/
theorem status_of_sameDirectories (same : SameDirectories first second) {node : FileNode}
    (kept : ∀ parent name, first.LeadsTo text parent name →
      second.find (parent ++ [name]) = first.find (parent ++ [name]))
    (there : first.status text = .ok node) : second.status text = .ok node := by
  unfold status at there ⊢
  obtain ⟨path, read, resolved⟩ := bind_eq_ok.mp there
  obtain ⟨found, resolved, isNode⟩ := bind_eq_ok.mp resolved
  refine bind_eq_ok.mpr ⟨path, read, bind_eq_ok.mpr ⟨found, ?_, isNode⟩⟩
  unfold resolve at resolved ⊢
  obtain ⟨target, located, went⟩ := bind_eq_ok.mp resolved
  refine bind_eq_ok.mpr ⟨target, same.locate located, ?_⟩
  cases target with
  | directory place =>
    obtain ⟨mode, here⟩ := locate_directory located place.length
    rw [List.take_length] at here
    dsimp only at went ⊢
    rw [here] at went
    rw [(same place mode).mp here]
    exact went
  | entry parent name slash =>
    obtain ⟨entry, looked, taken⟩ := bind_eq_ok.mp went
    obtain ⟨short, here⟩ := findEntry_eq_ok_iff.mp looked
    refine bind_eq_ok.mpr ⟨entry, findEntry_eq_ok_iff.mpr ⟨short, ?_⟩, taken⟩
    cases entry with
    | none => cases taken
    | some node =>
      cases node with
      | directory mode => exact (same _ mode).mp here
      | file held =>
        -- A file is the only thing at an entry that directories do not settle.
        cases slash with
        | true => cases taken
        | false => exact (kept parent name ⟨path, read, located, short⟩).trans here

/-! ### Trees that differ at some entries -/

/-- Two trees differ at most at the entries that some paths lead to: nothing else is in another
place, and every path that leads to no such entry leads to the same as before. -/
structure DifferOnlyAt (texts : List String) (before after : FileTree) : Prop where
  find : ∀ location, (∀ text ∈ texts, ∀ parent name, before.LeadsTo text parent name →
    parent ++ [name] ≠ location) → after.find location = before.find location
  status : ∀ other, (∀ text ∈ texts, ¬ before.SameEntry text other) → ∀ node,
    after.status other = .ok node ↔ before.status other = .ok node

theorem DifferOnlyAt.of_find {texts : List String} (same : SameDirectories before after)
    (find : ∀ location, (∀ text ∈ texts, ∀ parent name, before.LeadsTo text parent name →
      parent ++ [name] ≠ location) → after.find location = before.find location) :
    DifferOnlyAt texts before after := by
  refine ⟨find, fun other apart node => ?_⟩
  have kept : ∀ parent name, before.LeadsTo other parent name →
      after.find (parent ++ [name]) = before.find (parent ++ [name]) := fun _ _ leads =>
    find _ fun text isChanged _ _ leadsText equal =>
      apart text isChanged (.of_location leadsText leads equal)
  constructor
  · exact status_of_sameDirectories same.symm fun parent name leads =>
      (kept parent name (leads.of_sameDirectories same.symm)).symm
  · exact status_of_sameDirectories same kept

/-! ### Replacing -/

/-- A path does not lead to the entry of the temporary file beside it. -/
theorem not_sameEntry_temporaryPath (tree : FileTree) (text : String) :
    ¬ tree.SameEntry (temporaryPath text) text := by
  rintro ⟨parent, name, leadsBeside, leads⟩
  exact leads.beside_ne leadsBeside rfl

/-- Writing a file changes the entry that its path leads to. -/
theorem differOnlyAt_of_writeFile (wrote : tree.writeFile text contents = .ok written) :
    DifferOnlyAt [text] tree written :=
  .of_find (.of_writeFile wrote) fun _ notChanged =>
    find_of_writeFile wrote (notChanged text List.mem_cons_self)

/-- A replacement changes at most the entries of the file and of the temporary file. -/
theorem differOnlyAt_of_replaceFile {outcome : Except FileProblem Unit}
    (ran : tree.replaceFile text contents = (outcome, after)) :
    DifferOnlyAt [text, temporaryPath text] tree after :=
  .of_find (sameDirectories_of_replaceFile ran) fun _ notChanged =>
    find_of_replaceFile ran (notChanged _ List.mem_cons_self)
      (notChanged _ (List.mem_cons_of_mem _ List.mem_cons_self))

/-- A replacement that fails changes at most the entry of the temporary file. -/
theorem differOnlyAt_of_replaceFile_error
    (failed : tree.replaceFile text contents = (.error problem, after)) :
    DifferOnlyAt [temporaryPath text] tree after := by
  rcases replaceFile_eq_error_iff.mp failed with ⟨_, rfl⟩ | ⟨wrote, _⟩
  · exact ⟨fun _ _ => rfl, fun _ _ _ => Iff.rfl⟩
  · exact differOnlyAt_of_writeFile wrote

/-- The temporary file is gone after a replacement. -/
theorem status_temporaryPath_of_replaceFile
    (succeeded : tree.replaceFile text contents = (.ok (), after)) :
    after.status (temporaryPath text) = .error .notFound := by
  obtain ⟨_, _, leads, missing⟩ := exists_missing_of_replaceFile succeeded
  exact leads.status_eq_notFound_iff.mpr missing

end StoreTopology.FileTree

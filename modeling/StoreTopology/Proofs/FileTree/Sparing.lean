/-
**What replacing a file leaves as it is.**

A replacement works on two entries: that of the file and that of the temporary file beside it.

* `SameEntry`: two paths lead to the same entry of a directory;
* `sameDirectories_of_replaceFile`, `find_of_replaceFile`: all other entries and all directories
  stay, whether the replacement succeeds or fails;
* `readFile_of_replaceFile_other`: so do the files at all other paths;
* `exists_missing_of_replaceFile`: nothing is at the entry of the temporary file afterwards;
* `readFile_of_replaceFile_beside`: a file at the entry of the temporary file is gone afterwards.
-/

import StoreTopology.Proofs.FileTree.Replacing

namespace StoreTopology.FileTree

variable {tree after : FileTree} {text other : String} {contents held : ByteArray}
  {outcome : Except FileProblem Unit}

/-- Two paths lead to the same entry of a directory. -/
def SameEntry (tree : FileTree) (first second : String) : Prop :=
  ∃ parent name, tree.LeadsTo first parent name ∧ tree.LeadsTo second parent name

/-- Entries at the same location are the same entry. -/
theorem SameEntry.of_location {first second : String} {parent parent' : Location}
    {name name' : String} (leads : tree.LeadsTo first parent name)
    (leads' : tree.LeadsTo second parent' name') (same : parent ++ [name] = parent' ++ [name']) :
    tree.SameEntry first second := by
  obtain ⟨rfl, names⟩ := List.append_inj' same rfl
  cases names
  exact ⟨parent, name, leads, leads'⟩

/-- A replacement changes no directory. -/
theorem sameDirectories_of_replaceFile (ran : tree.replaceFile text contents = (outcome, after)) :
    SameDirectories tree after := by
  cases outcome with
  | error problem =>
    rcases replaceFile_eq_error_iff.mp ran with ⟨_, rfl⟩ | ⟨wrote, _⟩
    · exact .refl after
    · exact .of_writeFile wrote
  | ok _ =>
    obtain ⟨written, wrote, renamed⟩ := replaceFile_eq_ok_iff.mp ran
    have same : SameDirectories tree written := .of_writeFile wrote
    exact same.trans (.of_renameFile renamed)

/-- Writing a file changes nothing but the entry that its path leads to. -/
theorem find_of_writeFile {written : FileTree}
    (wrote : tree.writeFile text contents = .ok written) {location : Location}
    (notFile : ∀ parent name, tree.LeadsTo text parent name → parent ++ [name] ≠ location) :
    written.find location = tree.find location := by
  obtain ⟨parent, name, leads, _, rfl⟩ := writeFile_eq_ok wrote
  rw [find_put LeadsTo.notTop, if_neg (notFile parent name leads)]

/-- A replacement changes nothing but the entries that its two paths lead to. -/
theorem find_of_replaceFile (ran : tree.replaceFile text contents = (outcome, after))
    {location : Location}
    (notFile : ∀ parent name, tree.LeadsTo text parent name → parent ++ [name] ≠ location)
    (notBeside : ∀ parent name, tree.LeadsTo (temporaryPath text) parent name →
      parent ++ [name] ≠ location) : after.find location = tree.find location := by
  cases outcome with
  | error problem =>
    rcases replaceFile_eq_error_iff.mp ran with ⟨_, rfl⟩ | ⟨wrote, _⟩
    · rfl
    · exact find_of_writeFile wrote notBeside
  | ok _ =>
    obtain ⟨written, wrote, renamed⟩ := replaceFile_eq_ok_iff.mp ran
    have same : SameDirectories written tree := .symm (.of_writeFile wrote)
    obtain ⟨_, _, _, _, _, leadsBeside, leads, _, _, rfl⟩ := renameFile_eq_ok renamed
    rw [find_put LeadsTo.notTop, if_neg (notFile _ _ (leads.of_sameDirectories same)),
      find_erase LeadsTo.notTop, if_neg (notBeside _ _ (leadsBeside.of_sameDirectories same)),
      find_of_writeFile wrote notBeside]

/-- **A replacement leaves the files at other entries as they are**, whether it succeeds or
fails. -/
theorem readFile_of_replaceFile_other (ran : tree.replaceFile text contents = (outcome, after))
    (notFile : ¬ tree.SameEntry text other)
    (notBeside : ¬ tree.SameEntry (temporaryPath text) other) :
    after.readFile other = .ok held ↔ tree.readFile other = .ok held := by
  have same := sameDirectories_of_replaceFile ran
  have kept : ∀ {parent name}, tree.LeadsTo other parent name →
      after.find (parent ++ [name]) = tree.find (parent ++ [name]) := fun leads =>
    find_of_replaceFile ran (fun _ _ leadsFile equal => notFile (.of_location leadsFile leads equal))
      fun _ _ leadsBeside equal => notBeside (.of_location leadsBeside leads equal)
  rw [readFile_eq_ok_iff, readFile_eq_ok_iff]
  constructor
  · rintro ⟨parent, name, leads, here⟩
    have leadsBefore := leads.of_sameDirectories same.symm
    exact ⟨parent, name, leadsBefore, kept leadsBefore ▸ here⟩
  · rintro ⟨parent, name, leads, here⟩
    exact ⟨parent, name, leads.of_sameDirectories same, (kept leads).trans here⟩

/-- The path of the temporary file leads to an entry where nothing is after a replacement. -/
theorem exists_missing_of_replaceFile
    (succeeded : tree.replaceFile text contents = (.ok (), after)) :
    ∃ parent name, after.LeadsTo (temporaryPath text) parent name ∧
      after.find (parent ++ [name]) = none := by
  obtain ⟨written, _, renamed⟩ := replaceFile_eq_ok_iff.mp succeeded
  have same : SameDirectories written after := .of_renameFile renamed
  obtain ⟨_, _, _, _, _, leadsBeside, leads, _, _, rfl⟩ := renameFile_eq_ok renamed
  refine ⟨_, _, leadsBeside.of_sameDirectories same, ?_⟩
  rw [find_put LeadsTo.notTop, if_neg (leads.beside_ne leadsBeside).symm,
    find_erase LeadsTo.notTop, if_pos rfl]

/-- **After a replacement no file is at the entry of the temporary file.** -/
theorem readFile_of_replaceFile_beside
    (succeeded : tree.replaceFile text contents = (.ok (), after))
    (beside : tree.SameEntry (temporaryPath text) other) : after.readFile other ≠ .ok held := by
  have same := sameDirectories_of_replaceFile succeeded
  obtain ⟨parent, name, leadsBeside, leadsOther⟩ := beside
  intro there
  obtain ⟨_, _, leadsAfter, here⟩ := readFile_eq_ok_iff.mp there
  obtain ⟨rfl, rfl⟩ := leadsAfter.unique (leadsOther.of_sameDirectories same)
  obtain ⟨_, _, leadsMissing, missing⟩ := exists_missing_of_replaceFile succeeded
  obtain ⟨rfl, rfl⟩ := leadsMissing.unique (leadsBeside.of_sameDirectories same)
  rw [missing] at here
  cases here

end StoreTopology.FileTree

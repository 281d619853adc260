/-
**A data file that was opened can be opened again.**

* `Storage.Alike`: two storages have the same name and the same description;
* `Storage.blobDirectories`: the blob directories of a storage and those below it;
* `Storage.openFile_again`: a data file that was opened once is opened again with the files that were
  left, and no file changes then. It was created, it is started anew, or it was there before.
-/

import StoreTopology.Proofs.FileTree.Repeating
import StoreTopology.Proofs.Storage.Durability

namespace StoreTopology.Storage

open StoreTopology.Action

variable {settings : FileSettings} {site after later : Site} {records : Records}
  {storage : Storage}

/-! ### Storages that are alike -/

/-- Two storages look the same from outside, whatever their cells hold. -/
structure Alike (first second : Storage) : Prop where
  name : first.name = second.name
  describe : first.describe = second.describe

theorem alike_mapping (name : String) (cell other : CellId) :
    Alike (.mapping name cell) (.mapping name other) := ⟨rfl, rfl⟩

theorem alike_file (settings : FileSettings) (cell other : CellId) :
    Alike (.file settings cell) (.file settings other) := ⟨rfl, rfl⟩

/-- Demo storages over storages that are alike are alike, whether they are given a name or not. -/
theorem Alike.demo {base otherBase : Storage} (alike : base.Alike otherBase) (given : Option String)
    (changes otherChanges : CellId) :
    Alike (.demo (given.getD base.demoName) base changes)
      (.demo (given.getD otherBase.demoName) otherBase otherChanges) := by
  have names : base.demoName = otherBase.demoName := by
    unfold demoName
    rw [alike.name]
  rw [names]
  refine ⟨rfl, ?_⟩
  rw [Storage.describe, Storage.describe, alike.describe]

/-- The blob directories that a storage and those below it were given, with their permission bits. -/
def blobDirectories : Storage → List (String × UInt32)
  | file settings _ =>
    settings.blobDirectory.toList.map fun directory => (directory, settings.blobPermissions)
  | demo _ base _ => base.blobDirectories
  | mapping _ _ | memory _ _ _ | faulty _ _ => []

/-! ### Opening again -/

/-- A data file that was created is read without records. -/
theorem readRecords_of_replaceFile {files made : FileTree} {path : String}
    (replaced : files.replaceFile path (Records.encode .empty) = (.ok (), made)) :
    made.pathExists path = true ∧ readRecords path made = .ok .empty := by
  have there := FileTree.readFile_of_replaceFile replaced
  refine ⟨FileTree.pathExists_of_readFile there, ?_⟩
  unfold readRecords
  rw [there]
  exact decodeRecords_encode path rfl (by decide)

theorem loadFile_eq_ok {path : String} (loaded : loadFile path site = (.ok records, after)) :
    after.files = site.files ∧ readRecords path site.files = .ok records := by
  rw [loadFile_apply] at loaded
  obtain ⟨read, rfl⟩ := Prod.mk.inj loaded
  exact ⟨rfl, read⟩

theorem createFile_eq_ok {path : String} (created : createFile path site = (.ok records, after)) :
    site.files.replaceFile path (Records.encode .empty) = (.ok (), after.files) := by
  rw [createFile_apply] at created
  split at created
  · cases created
  · next files replaced =>
    cases created
    exact replaced

/-- The records with which a storage started are read again, or the data file is started anew
again. -/
theorem startingRecords_again
    (started : startingRecords settings (site.files.pathExists settings.path) site =
      (.ok records, after)) (same : later.files = after.files) :
    ∃ found again, startingRecords settings (later.files.pathExists settings.path) later =
      (.ok found, again) ∧ again.files = later.files := by
  have loads : ∀ {found}, readRecords settings.path later.files = .ok found →
      ∃ found again, loadFile settings.path later = (.ok found, again) ∧
        again.files = later.files := fun {found} read =>
    ⟨found, later.log .debug ("Reading " ++ settings.path ++ "..."),
      by rw [loadFile_apply, read], rfl⟩
  unfold startingRecords at started ⊢
  by_cases readOnly : settings.readOnly = true
  · rw [if_pos readOnly] at started ⊢
    by_cases present : site.files.pathExists settings.path = true
    · rw [if_pos present] at started
      obtain ⟨kept, read⟩ := loadFile_eq_ok started
      rw [← kept, ← same] at present read
      rw [if_pos present]
      exact loads read
    · rw [if_neg present] at started
      cases started
  · rw [if_neg readOnly] at started ⊢
    by_cases creates : (settings.create || !site.files.pathExists settings.path) = true
    · rw [if_pos creates] at started
      have replaced := createFile_eq_ok started
      rw [← same] at replaced
      by_cases asked : settings.create = true
      · have replacedAgain := FileTree.replaceFile_again replaced
        refine ⟨.empty, later.log .debug ("Creating " ++ settings.path ++ "..."), ?_, rfl⟩
        rw [asked, Bool.true_or, if_pos rfl, createFile_apply, replacedAgain]
        rfl
      · obtain ⟨there, read⟩ := readRecords_of_replaceFile replaced
        rw [there, Bool.eq_false_iff.mpr asked]
        exact loads read
    · rw [if_neg creates] at started
      obtain ⟨kept, read⟩ := loadFile_eq_ok started
      rw [← kept, ← same] at creates read
      rw [if_neg creates]
      exact loads read

/-- **A data file that was opened is opened again with the files that were left.** No file changes
then. -/
theorem openFile_again (opened : openFile settings site = (.ok storage, after))
    (same : later.files = after.files) :
    ∃ cell again, openFile settings later = (.ok (.file settings cell), again) ∧
      again.files = later.files := by
  rw [openFile_apply] at opened
  split at opened
  · next records between started =>
    cases opened
    obtain ⟨found, again, restarted, kept⟩ := startingRecords_again started same
    refine ⟨(again.addCell found).1, (again.addCell found).2, ?_, kept⟩
    rw [openFile_apply, restarted]
  · cases opened

end StoreTopology.Storage

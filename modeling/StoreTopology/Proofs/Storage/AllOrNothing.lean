/-
**A file storage stores all of a batch or nothing of it.**

* `CannotReplace`: why a data file cannot be written;
* `SparesData`, `LaysData`: what a site keeps when a data file could not be written, and what has
  changed when it was;
* `Storing`: the outcomes of storing a batch, with what each of them leaves behind;
* `store_allOrNothing`: storing has one of these outcomes.
-/

import StoreTopology.Proofs.FileTree.Differing
import StoreTopology.Proofs.Storage.DataFile

namespace StoreTopology

variable {settings : FileSettings} {cell : CellId} {batch records : Records} {site : Site}
  {problem : FileProblem} {files : FileTree}

/-- A data file cannot be written: its temporary file cannot, or cannot take its place. -/
inductive FileTree.CannotReplace (tree : FileTree) (text : String) (contents : ByteArray) :
    FileProblem → Prop
  | notWritten {problem : FileProblem}
      (failed : tree.writeFile (temporaryPath text) contents = .error problem) :
      CannotReplace tree text contents problem
  | notRenamed {written : FileTree} {problem : FileProblem}
      (wrote : tree.writeFile (temporaryPath text) contents = .ok written)
      (failed : written.renameFile (temporaryPath text) text = .error problem) :
      CannotReplace tree text contents problem

theorem FileTree.cannotReplace_of_replaceFile {tree after : FileTree} {text : String}
    {contents : ByteArray} (failed : tree.replaceFile text contents = (.error problem, after)) :
    CannotReplace tree text contents problem := by
  rcases replaceFile_eq_error_iff.mp failed with ⟨notWritten, _⟩ | ⟨wrote, notRenamed⟩
  · exact .notWritten notWritten
  · exact .notRenamed wrote notRenamed

namespace Storage

/-- The records in memory, the data file and all files and directories are as before, except for
what is at the path of the temporary file. -/
structure SparesData (settings : FileSettings) (before after : Site) : Prop where
  cells : after.cells = before.cells
  databases : after.databases = before.databases
  registries : after.registries = before.registries
  dataFile : ∀ node,
    after.files.status settings.path = .ok node ↔ before.files.status settings.path = .ok node
  files : before.files.DifferOnlyAt [temporaryPath settings.path] after.files

/-- The records are those of the cell and of the data file, there is no temporary file, and all else
is as before. -/
structure LaysData (settings : FileSettings) (cell : CellId) (records : Records)
    (before after : Site) : Prop where
  held : after.records? cell = some records
  otherCells : ∀ other ≠ cell, after.records? other = before.records? other
  databases : after.databases = before.databases
  registries : after.registries = before.registries
  dataFile : after.files.readFile settings.path = .ok records.encode
  noTemporary : after.files.status (temporaryPath settings.path) = .error .notFound
  files : before.files.DifferOnlyAt [settings.path, temporaryPath settings.path] after.files

/-- What storing a batch comes to. The first of the reasons to fail that holds is the one that
counts. -/
inductive Storing (settings : FileSettings) (cell : CellId) (batch : Records) (site : Site) :
    Except StoreError Unit → Site → Prop
  | readOnly (isReadOnly : settings.readOnly = true) :
      Storing settings cell batch site (.error (.readOnly settings.path)) site
  | closed (writable : settings.readOnly = false) (isClosed : site.records? cell = none) :
      Storing settings cell batch site (.error (.closed settings.path)) site
  | overQuota {records updated : Records} {quota : UInt64} (writable : settings.readOnly = false)
      (held : site.records? cell = some records) (merged : updated = records.overlay batch)
      (hasQuota : settings.quota = some quota) (exceeds : quota.toNat < updated.encode.size) :
      Storing settings cell batch site
        (.error (.quotaExceeded settings.path quota updated.encode.size)) site
  | notWritten {records updated : Records} {problem : FileProblem} {after : Site}
      (writable : settings.readOnly = false) (held : site.records? cell = some records)
      (merged : updated = records.overlay batch)
      (fits : ∀ quota, settings.quota = some quota → updated.encode.size ≤ quota.toNat)
      (fails : site.files.CannotReplace settings.path updated.encode problem)
      (spares : SparesData settings site after) :
      Storing settings cell batch site (.error (.files problem)) after
  | stored {records updated : Records} {written : FileTree} {after : Site}
      (writable : settings.readOnly = false) (held : site.records? cell = some records)
      (merged : updated = records.overlay batch)
      (fits : ∀ quota, settings.quota = some quota → updated.encode.size ≤ quota.toNat)
      (wrote : site.files.writeFile (temporaryPath settings.path) updated.encode = .ok written)
      (renamed : written.renameFile (temporaryPath settings.path) settings.path = .ok after.files)
      (lays : LaysData settings cell updated site after) :
      Storing settings cell batch site (.ok ()) after

theorem exceededQuota_eq_none_iff {contents : ByteArray} : exceededQuota settings contents = none ↔
    ∀ quota, settings.quota = some quota → contents.size ≤ quota.toNat := by
  unfold exceededQuota
  cases settings.quota with
  | none => simp
  | some limit => simp

/-- A data file that could not be written is as it was. -/
theorem sparesData_of_replaceFile {contents : ByteArray}
    (failed : site.files.replaceFile settings.path contents = (.error problem, files))
    (level : LogLevel) (text : String) :
    SparesData settings site { site.log level text with files } := by
  have spared := FileTree.differOnlyAt_of_replaceFile_error failed
  refine ⟨rfl, rfl, rfl, spared.status settings.path ?_, spared⟩
  rintro beside isBeside
  rw [List.mem_singleton.mp isBeside]
  exact FileTree.not_sameEntry_temporaryPath site.files settings.path

/-- A data file that was written has the records that the cell is given. -/
theorem laysData_of_replaceFile {updated : Records} (held : site.records? cell = some records)
    (replaced : site.files.replaceFile settings.path updated.encode = (.ok (), files))
    (level : LogLevel) (text : String) :
    LaysData settings cell updated site
      ({ site.log level text with files }.setRecords cell (some updated)) where
  held :=
    have heldStill : ({ site.log level text with files } : Site).records? cell = some records := held
    records?_setRecords heldStill
  otherCells := fun _ differ => Site.records?_setRecords_of_ne differ
  databases := rfl
  registries := rfl
  dataFile := FileTree.readFile_of_replaceFile replaced
  noTemporary := FileTree.status_temporaryPath_of_replaceFile replaced
  files := FileTree.differOnlyAt_of_replaceFile replaced

/-- **A file storage stores all of a batch or nothing of it**: it is refused for the first reason
that holds, and the records in memory and in the data file are as before; or both are the records
from before with the batch laid over them. No other files are touched than the data file, which
changes only in the second case, and the temporary file beside it, which is gone then. -/
theorem store_allOrNothing (settings : FileSettings) (cell : CellId) (batch : Records)
    (site : Site) :
    Storing settings cell batch site (Storage.store batch (.file settings cell) site).1
      (Storage.store batch (.file settings cell) site).2 := by
  rw [show Storage.store batch (.file settings cell) = storeInFile settings cell batch from rfl,
    storeInFile_apply]
  split
  · next isReadOnly => exact .readOnly isReadOnly
  · next notReadOnly =>
    have writable := Bool.eq_false_iff.mpr notReadOnly
    split
    · next isClosed => exact .closed writable isClosed
    · next records held =>
      dsimp only
      split
      · next quota exceeded =>
        obtain ⟨hasQuota, exceeds⟩ := exceededQuota_eq_some_iff.mp exceeded
        exact .overQuota writable held rfl hasQuota exceeds
      · next notExceeded =>
        have fits := exceededQuota_eq_none_iff.mp notExceeded
        split
        · next problem files failed =>
          exact .notWritten writable held rfl fits (FileTree.cannotReplace_of_replaceFile failed)
            (sparesData_of_replaceFile failed _ _)
        · next files replaced =>
          obtain ⟨written, wrote, renamed⟩ := FileTree.replaceFile_eq_ok_iff.mp replaced
          exact .stored writable held rfl fits wrote renamed
            (laysData_of_replaceFile held replaced _ _)

end Storage

end StoreTopology

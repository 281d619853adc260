/-
**What the operations of a file storage do.**

* `openFile_apply`: opening gets the records, and gives them a cell;
* `storeInFile_apply`: storing writes the data file first, and the cell only after it;
* `openFile_eq_ok`, `storeInFile_eq_ok`: the records in memory are those in the data file;
* `readFile_of_openFile_error`, `readFile_of_storeInFile_error`: a failure leaves the data file as
  it is.
-/

import StoreTopology.Proofs.FileTree.Replacing
import StoreTopology.Proofs.Storage.Cells
import StoreTopology.Storage.Operations

namespace StoreTopology.Storage

open StoreTopology.Action

variable {settings : FileSettings} {cell : CellId} {batch records : Records} {site after : Site}

/-! ### Reading and starting a data file -/

theorem loadFile_apply (path : String) (site : Site) :
    loadFile path site =
      (readRecords path site.files, site.log .debug ("Reading " ++ path ++ "...")) := rfl

theorem createFile_apply (path : String) (site : Site) :
    createFile path site =
      match site.files.replaceFile path (Records.encode .empty) with
      | (.error problem, files) =>
        (.error (.files problem), { site.log .debug ("Creating " ++ path ++ "...") with files })
      | (.ok _, files) =>
        (.ok .empty, { site.log .debug ("Creating " ++ path ++ "...") with files }) := by
  unfold createFile
  rw [bind_of_ok (log_apply _ _)]
  split
  · next problem files failed => exact bind_of_error (onFiles_of_error failed)
  · next files replaced => exact bind_of_ok (onFiles_of_ok replaced)

/-- The records that a storage of a data file starts with. -/
def startingRecords (settings : FileSettings) (present : Bool) : Action StoreError Records :=
  if settings.readOnly then
    if present then loadFile settings.path else throw (.readOnly settings.path)
  else if settings.create || !present then createFile settings.path
  else loadFile settings.path

/-- The storage of a data file, from its records. -/
theorem bind_addCell (action : Action StoreError Records) (settings : FileSettings)
    (site : Site) :
    (action >>= fun records =>
        Action.create (fun site => site.addCell records) >>= fun cell =>
          pure (Storage.file settings cell)) site =
      match action site with
      | (.ok records, after) =>
        (.ok (.file settings (after.addCell records).1), (after.addCell records).2)
      | (.error error, after) => (.error error, after) := by
  split
  · next records after ran =>
    rw [bind_of_ok ran]
    rfl
  · next error after ran => rw [bind_of_error ran]

/-- Opening gets the records, and gives them a cell. -/
theorem openFile_apply (settings : FileSettings) (site : Site) :
    openFile settings site =
      match startingRecords settings (site.files.pathExists settings.path) site with
      | (.ok records, after) =>
        (.ok (.file settings (after.addCell records).1), (after.addCell records).2)
      | (.error error, after) => (.error error, after) := by
  unfold openFile startingRecords
  rw [bind_of_ok site_apply]
  dsimp only
  split
  · split
    · exact bind_addCell _ settings site
    · rfl
  · split
    · exact bind_addCell _ settings site
    · exact bind_addCell _ settings site

/-- The quota that the contents of a data file exceed, if they do. -/
def exceededQuota (settings : FileSettings) (contents : ByteArray) : Option UInt64 :=
  match settings.quota with
  | some quota => if quota.toNat < contents.size then some quota else none
  | none => none

theorem exceededQuota_eq_some_iff {contents : ByteArray} {quota : UInt64} :
    exceededQuota settings contents = some quota ↔
      settings.quota = some quota ∧ quota.toNat < contents.size := by
  unfold exceededQuota
  cases settings.quota with
  | none => simp
  | some limit =>
    by_cases exceeded : limit.toNat < contents.size
    · simp only [if_pos exceeded, Option.some.injEq]
      exact ⟨fun same => ⟨same, same ▸ exceeded⟩, And.left⟩
    · simp only [if_neg exceeded, Option.some.injEq]
      exact ⟨fun none => (nomatch none), fun ⟨same, larger⟩ => absurd (same ▸ larger) exceeded⟩

/-- The last steps of storing, which write the data file and the cell. -/
theorem writeUpdate_apply (settings : FileSettings) (cell : CellId) (updated : Records)
    (site : Site) :
    (Action.log .debug ("Writing " ++ settings.path ++ "...") >>= fun _ =>
        Action.onFiles (fun files => files.replaceFile settings.path updated.encode) >>= fun _ =>
          Action.change fun site => site.setRecords cell (some updated)) site =
      match site.files.replaceFile settings.path updated.encode with
      | (.error problem, files) =>
        (.error (.files problem),
          { site.log .debug ("Writing " ++ settings.path ++ "...") with files })
      | (.ok _, files) =>
        (.ok (), { site.log .debug ("Writing " ++ settings.path ++ "...") with files }.setRecords
          cell (some updated)) := by
  rw [bind_of_ok (log_apply _ _)]
  split
  · next problem files failed => exact bind_of_error (onFiles_of_error failed)
  · next files replaced => exact bind_of_ok (onFiles_of_ok replaced)

/-- Storing writes the data file first, and the cell only after it. -/
theorem storeInFile_apply (settings : FileSettings) (cell : CellId) (batch : Records)
    (site : Site) :
    storeInFile settings cell batch site =
      if settings.readOnly then (.error (.readOnly settings.path), site)
      else match site.records? cell with
        | none => (.error (.closed settings.path), site)
        | some records =>
          let updated : Records := records.overlay batch
          match exceededQuota settings updated.encode with
          | some quota =>
            (.error (.quotaExceeded settings.path quota updated.encode.size), site)
          | none =>
            match site.files.replaceFile settings.path updated.encode with
            | (.error problem, files) =>
              (.error (.files problem),
                { site.log .debug ("Writing " ++ settings.path ++ "...") with files })
            | (.ok _, files) =>
              (.ok (), { site.log .debug ("Writing " ++ settings.path ++ "...") with
                files }.setRecords cell (some updated)) := by
  unfold storeInFile
  by_cases readOnly : settings.readOnly = true
  · rw [if_pos readOnly, if_pos readOnly]
    rfl
  · rw [if_neg readOnly, if_neg readOnly]
    dsimp only
    rw [bind_of_ok site_apply]
    unfold cellRecords
    cases held : site.records? cell with
    | none => rfl
    | some records =>
      rw [bind_of_ok (ofExcept_apply _)]
      unfold exceededQuota
      cases settings.quota with
      | none => exact writeUpdate_apply settings cell _ site
      | some quota =>
        by_cases exceeded : quota.toNat < (Records.encode (records.overlay batch)).size
        · simp only [if_pos exceeded]
          rfl
        · simp only [if_neg exceeded]
          exact writeUpdate_apply settings cell _ site

/-! ### Success -/

/-- Starting means to load the data file, to create it, or to be refused. -/
theorem startingRecords_cases (settings : FileSettings) (present : Bool) :
    startingRecords settings present = loadFile settings.path ∨
      startingRecords settings present = createFile settings.path ∨
      startingRecords settings present = throw (.readOnly settings.path) := by
  unfold startingRecords
  split
  · split
    · exact .inl rfl
    · exact .inr (.inr rfl)
  · split
    · exact .inr (.inl rfl)
    · exact .inl rfl

theorem records?_addCell (site : Site) (records : Records) :
    (site.addCell records).2.records? (site.addCell records).1 = some records := by
  show ((site.cells.add (some records)).get? site.cells.next).join = _
  rw [Table.get?_add, if_pos rfl]
  rfl

theorem cellRecords_of_held (name : String) (held : site.records? cell = some records) :
    cellRecords site name cell = .ok records := by
  unfold cellRecords
  rw [held]

theorem records?_setRecords {changed : Option Records} (held : site.records? cell = some records) :
    (site.setRecords cell changed).records? cell = changed := by
  have present := Site.allocated_of_records? held
  show ((site.cells.set cell.number changed).get? cell.number).join = changed
  rw [Table.get?_set, if_pos ⟨rfl, present⟩]
  rfl

/-- The records of a storage that was opened are those of its data file, which may be new. -/
theorem openFile_eq_ok {storage : Storage}
    (opened : openFile settings site = (.ok storage, after)) :
    ∃ cell records, storage = .file settings cell ∧ after.records? cell = some records ∧
      (after.files = site.files ∧ readRecords settings.path site.files = .ok records ∨
        records = .empty ∧
          site.files.replaceFile settings.path (Records.encode .empty) =
            (.ok (), after.files)) := by
  rw [openFile_apply] at opened
  split at opened
  · next records between started =>
    cases opened
    refine ⟨_, records, rfl, records?_addCell between records, ?_⟩
    rcases startingRecords_cases settings (site.files.pathExists settings.path) with
      loads | creates | refuses
    · rw [loads, loadFile_apply] at started
      obtain ⟨read, rfl⟩ := Prod.mk.inj started
      exact .inl ⟨rfl, read⟩
    · rw [creates, createFile_apply] at started
      split at started
      · cases started
      · next files replaced =>
        cases started
        exact .inr ⟨rfl, replaced⟩
    · rw [refuses] at started
      cases started
  · cases opened

/-- The records of a storage after a batch are those that its data file was given. -/
theorem storeInFile_eq_ok (stored : storeInFile settings cell batch site = (.ok (), after)) :
    ∃ records, site.records? cell = some records ∧
      after.records? cell = some (records.overlay batch) ∧
      site.files.replaceFile settings.path (Records.encode (records.overlay batch)) =
        (.ok (), after.files) := by
  rw [storeInFile_apply] at stored
  split at stored
  · cases stored
  · split at stored
    · cases stored
    · next records held =>
      refine ⟨records, held, ?_⟩
      dsimp only at stored
      split at stored
      · cases stored
      · split at stored
        · cases stored
        · next files replaced =>
          cases stored
          exact ⟨records?_setRecords held, replaced⟩

/-! ### Failure -/

/-- A storage that could not be opened left its data file as it was. -/
theorem readFile_of_openFile_error {error : StoreError} {contents : ByteArray}
    (failed : openFile settings site = (.error error, after))
    (before : site.files.readFile settings.path = .ok contents) :
    after.files.readFile settings.path = .ok contents := by
  rw [openFile_apply] at failed
  split at failed
  · cases failed
  · next problem between started =>
    cases failed
    rcases startingRecords_cases settings (site.files.pathExists settings.path) with
      loads | creates | refuses
    · rw [loads, loadFile_apply] at started
      obtain ⟨_, rfl⟩ := Prod.mk.inj started
      exact before
    · rw [creates, createFile_apply] at started
      split at started
      · next files failed =>
        cases started
        exact FileTree.readFile_of_replaceFile_error failed before
      · cases started
    · rw [refuses] at started
      cases started
      exact before

/-- A batch that could not be stored left the data file as it was. -/
theorem readFile_of_storeInFile_error {error : StoreError} {contents : ByteArray}
    (failed : storeInFile settings cell batch site = (.error error, after))
    (before : site.files.readFile settings.path = .ok contents) :
    after.files.readFile settings.path = .ok contents := by
  rw [storeInFile_apply] at failed
  split at failed
  · cases failed
    exact before
  · split at failed
    · cases failed
      exact before
    · dsimp only at failed
      split at failed
      · cases failed
        exact before
      · split at failed
        · next files notReplaced =>
          cases failed
          exact FileTree.readFile_of_replaceFile_error notReplaced before
        · cases failed

/-! ### Opening a data file that is there -/

/-- A data file that is there is read, unless the settings ask to start anew. -/
theorem openFile_of_readFile {contents : ByteArray} (kept : settings.create = false)
    (there : site.files.readFile settings.path = .ok contents) :
    openFile settings site =
      match decodeRecords settings.path contents with
      | .ok records =>
        let logged := site.log .debug ("Reading " ++ settings.path ++ "...")
        (.ok (.file settings (logged.addCell records).1), (logged.addCell records).2)
      | .error error => (.error error, site.log .debug ("Reading " ++ settings.path ++ "...")) := by
  have present : site.files.pathExists settings.path = true :=
    FileTree.pathExists_of_readFile there
  have loads : startingRecords settings true = loadFile settings.path := by
    unfold startingRecords
    rw [kept]
    split
    · rfl
    · rfl
  have read : readRecords settings.path site.files = decodeRecords settings.path contents := by
    unfold readRecords
    rw [there]
  rw [openFile_apply, present, loads, loadFile_apply, read]
  cases decodeRecords settings.path contents with
  | ok records => rfl
  | error error => rfl

end StoreTopology.Storage

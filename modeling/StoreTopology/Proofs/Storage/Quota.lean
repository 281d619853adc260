/-
**How large a data file gets under a quota.**

A batch is stored only if the data file stays within the quota. A new data file is written without
regard to it: this has two bytes, which is more than a quota of none or of one.

* `two_le_size_encode`: every data file that is written has at least two bytes;
* `DataFileStep`, `DataFileRun`: what is done with the data file of some settings, and whether it was
  written;
* `DataFileStep.keepsFile`, `DataFileStep.fits`: what a step leaves that does not write the data
  file, and what one writes that does;
* `DataFileRun.withinQuota`: a data file that was written is within the quota, unless it is new and
  the quota is less than two bytes.
-/

import StoreTopology.Proofs.FileTree.Differing
import StoreTopology.Proofs.Storage.DataFile

namespace StoreTopology

variable {settings : FileSettings} {site after initial : Site} {quota : UInt64}
  {contents : ByteArray}

/-! ### Sizes -/

/-- Every data file that is written has at least two bytes. -/
theorem two_le_size_encode (records : Records) : 2 ≤ records.encode.size := by
  show 2 ≤ records.toJson.pretty.utf8ByteSize
  unfold Records.toJson Json.pretty
  cases records.entries with
  | nil => decide
  | cons entry rest =>
    rw [List.map_cons, Json.prettyAt]
    simp only [String.utf8ByteSize_append]
    have opening : "\x7b".utf8ByteSize = 1 := by decide
    have closing : "\x7d".utf8ByteSize = 1 := by decide
    omega

/-- A new data file has two bytes. -/
theorem size_encode_empty : (Records.encode .empty).size = 2 := by decide

/-- The contents of a data file are within a quota, or the file is new and the quota is less than its
two bytes. -/
def FitsQuota (quota : UInt64) (contents : ByteArray) : Prop :=
  contents.size ≤ quota.toNat ∨ quota.toNat < 2 ∧ contents = Records.encode .empty

theorem fitsQuota_empty (quota : UInt64) : FitsQuota quota (Records.encode .empty) := by
  unfold FitsQuota
  by_cases small : quota.toNat < 2
  · exact .inr ⟨small, rfl⟩
  · rw [size_encode_empty]
    exact .inl (Nat.not_lt.mp small)

/-! ### Files that stay -/

namespace FileTree

variable {tree changed : FileTree} {text : String} {held : ByteArray} {problem : FileProblem}

theorem readFile_eq_ok_iff_status :
    tree.readFile text = .ok held ↔ tree.status text = .ok (.file held) := by
  unfold readFile
  rw [bind_eq_ok]
  constructor
  · rintro ⟨node, there, read⟩
    cases node with
    | directory mode => cases read
    | file found =>
      cases read
      exact there
  · exact fun there => ⟨.file held, there, rfl⟩

/-- A replacement that fails leaves the file as it is, and makes none. -/
theorem readFile_of_replaceFile_error_iff
    (failed : tree.replaceFile text contents = (.error problem, changed)) :
    changed.readFile text = .ok held ↔ tree.readFile text = .ok held := by
  rw [readFile_eq_ok_iff_status, readFile_eq_ok_iff_status]
  refine (differOnlyAt_of_replaceFile_error failed).status text ?_ (.file held)
  rintro beside isBeside
  rw [List.mem_singleton.mp isBeside]
  exact not_sameEntry_temporaryPath tree text

end FileTree

/-! ### Steps -/

/-- Opening starts a new data file: one that is missing, or that the settings ask to start anew. -/
def FileSettings.startsAnew (settings : FileSettings) (site : Site) : Bool :=
  !settings.readOnly && (settings.create || !site.files.pathExists settings.path)

/-- One step with the data file of some settings, and whether it wrote the data file. Between the
steps of its storages anything may happen that leaves the data file as it is. -/
inductive DataFileStep (settings : FileSettings) : Site → Bool → Site → Prop
  | opened {site after : Site} {storage : Storage}
      (opens : Storage.openFile settings site = (.ok storage, after)) :
      DataFileStep settings site (settings.startsAnew site) after
  | notOpened {site after : Site} {error : StoreError}
      (fails : Storage.openFile settings site = (.error error, after)) :
      DataFileStep settings site false after
  | stored {site after : Site} {cell : CellId} {batch : Records}
      (stores : Storage.store batch (.file settings cell) site = (.ok (), after)) :
      DataFileStep settings site true after
  | notStored {site after : Site} {cell : CellId} {batch : Records} {error : StoreError}
      (fails : Storage.store batch (.file settings cell) site = (.error error, after)) :
      DataFileStep settings site false after
  | closed {site after : Site} {cell : CellId} {result : Except StoreError Unit}
      (closes : Storage.close (.file settings cell) site = (result, after)) :
      DataFileStep settings site false after
  | elsewhere {site after : Site}
      (untouched : after.files.readFile settings.path = site.files.readFile settings.path) :
      DataFileStep settings site false after

/-- Any number of steps, and whether one of them wrote the data file. -/
inductive DataFileRun (settings : FileSettings) (initial : Site) : Bool → Site → Prop
  | start : DataFileRun settings initial false initial
  | next {wrote writes : Bool} {site after : Site}
      (before : DataFileRun settings initial wrote site)
      (step : DataFileStep settings site writes after) :
      DataFileRun settings initial (wrote || writes) after

namespace Storage

variable {cell : CellId} {batch : Records} {error : StoreError}

/-- A new data file is created, and else one is loaded or refused. -/
theorem startingRecords_of_startsAnew (startsAnew : settings.startsAnew site = true) :
    startingRecords settings (site.files.pathExists settings.path) = createFile settings.path := by
  unfold FileSettings.startsAnew at startsAnew
  rw [Bool.and_eq_true, Bool.not_eq_true'] at startsAnew
  unfold startingRecords
  rw [startsAnew.1, startsAnew.2]
  rfl

/-- Opening a data file that is not started anew changes no file. -/
theorem files_openFile_of_kept (kept : settings.startsAnew site = false) :
    (openFile settings site).2.files = site.files := by
  have starts : (startingRecords settings (site.files.pathExists settings.path) site).2.files =
      site.files := by
    unfold FileSettings.startsAnew at kept
    unfold startingRecords
    split
    · split
      · rfl
      · rfl
    · next writable =>
      rw [Bool.and_eq_false_iff, Bool.not_eq_false'] at kept
      rw [if_neg (Bool.eq_false_iff.mp (kept.resolve_left writable))]
      rfl
  rw [openFile_apply]
  cases ran : startingRecords settings (site.files.pathExists settings.path) site with
  | mk outcome between =>
    rw [ran] at starts
    cases outcome with
    | ok records => exact starts
    | error error => exact starts

/-- Opening a data file that is started anew is a replacement of it, which succeeds or fails as the
opening does. -/
theorem replaceFile_of_startsAnew (startsAnew : settings.startsAnew site = true) :
    (∀ storage, openFile settings site = (.ok storage, after) →
      site.files.replaceFile settings.path (Records.encode .empty) = (.ok (), after.files)) ∧
    ∀ error, openFile settings site = (.error error, after) → ∃ problem,
      site.files.replaceFile settings.path (Records.encode .empty) =
        (.error problem, after.files) := by
  rw [openFile_apply, startingRecords_of_startsAnew startsAnew, createFile_apply]
  cases ran : site.files.replaceFile settings.path (Records.encode .empty) with
  | mk outcome files =>
    cases outcome with
    | ok _ =>
      constructor
      · intro storage opens
        cases opens
        rfl
      · intro error fails
        cases fails
    | error problem =>
      constructor
      · intro storage opens
        cases opens
      · intro error fails
        cases fails
        exact ⟨problem, rfl⟩

/-- A batch is stored within the quota. -/
theorem size_le_of_storeInFile (hasQuota : settings.quota = some quota)
    (stored : storeInFile settings cell batch site = (.ok (), after)) :
    ∃ contents, site.files.replaceFile settings.path contents = (.ok (), after.files) ∧
      contents.size ≤ quota.toNat := by
  obtain ⟨records, held, _, replaced⟩ := storeInFile_eq_ok stored
  refine ⟨_, replaced, Nat.not_lt.mp fun exceeds => ?_⟩
  have exceeded := exceededQuota_eq_some_iff.mpr ⟨hasQuota, exceeds⟩
  rw [storeInFile_apply] at stored
  split at stored
  · cases stored
  · rw [held] at stored
    dsimp only at stored
    rw [exceeded] at stored
    cases stored

/-- A batch that is not stored changes no file, or fails in the replacement of the data file. -/
theorem files_of_storeInFile_error
    (failed : storeInFile settings cell batch site = (.error error, after)) :
    after.files = site.files ∨ ∃ contents problem,
      site.files.replaceFile settings.path contents = (.error problem, after.files) := by
  rw [storeInFile_apply] at failed
  split at failed
  · cases failed
    exact .inl rfl
  · split at failed
    · cases failed
      exact .inl rfl
    · dsimp only at failed
      split at failed
      · cases failed
        exact .inl rfl
      · split at failed
        · next problem files notReplaced =>
          cases failed
          exact .inr ⟨_, problem, notReplaced⟩
        · cases failed

end Storage

namespace DataFileStep

open Storage

/-- A step that does not write the data file leaves it as it is. -/
theorem keepsFile (step : DataFileStep settings site false after) (contents : ByteArray) :
    after.files.readFile settings.path = .ok contents ↔
      site.files.readFile settings.path = .ok contents := by
  generalize isFalse : false = writes at step
  cases step with
  | opened opens =>
    have same := files_openFile_of_kept isFalse.symm
    rw [opens] at same
    rw [same]
  | notOpened fails =>
    by_cases startsAnew : settings.startsAnew site = true
    · obtain ⟨problem, notReplaced⟩ := (replaceFile_of_startsAnew startsAnew).2 _ fails
      exact FileTree.readFile_of_replaceFile_error_iff notReplaced
    · have same := files_openFile_of_kept (Bool.eq_false_iff.mpr startsAnew)
      rw [fails] at same
      rw [same]
  | notStored fails =>
    rcases files_of_storeInFile_error fails with same | ⟨_, problem, notReplaced⟩
    · rw [same]
    · exact FileTree.readFile_of_replaceFile_error_iff notReplaced
  | closed closes =>
    cases closes
    exact Iff.rfl
  | elsewhere untouched => rw [untouched]
  | stored stores => cases isFalse

/-- A step that writes the data file writes what fits the quota. -/
theorem fits (step : DataFileStep settings site true after)
    (hasQuota : settings.quota = some quota) :
    ∃ contents, after.files.readFile settings.path = .ok contents ∧ FitsQuota quota contents := by
  generalize isTrue : true = writes at step
  cases step with
  | opened opens =>
    have replaced := (replaceFile_of_startsAnew isTrue.symm).1 _ opens
    exact ⟨_, FileTree.readFile_of_replaceFile replaced, fitsQuota_empty quota⟩
  | stored stores =>
    obtain ⟨contents, replaced, within⟩ := size_le_of_storeInFile hasQuota stores
    exact ⟨contents, FileTree.readFile_of_replaceFile replaced, .inl within⟩
  | notOpened _ => cases isTrue
  | notStored _ => cases isTrue
  | closed _ => cases isTrue
  | elsewhere _ => cases isTrue

end DataFileStep

/-! ### Runs -/

/-- **A data file that was written is within the quota**, whatever was done before and after that,
unless the quota is less than the two bytes of a new data file, and the file is new. One that was not
written is as it was in the beginning. -/
theorem DataFileRun.withinQuota {wrote : Bool} (run : DataFileRun settings initial wrote site)
    (hasQuota : settings.quota = some quota) :
    (wrote = true → ∃ contents, site.files.readFile settings.path = .ok contents ∧
      (contents.size ≤ quota.toNat ∨ quota.toNat < 2 ∧ contents = Records.encode .empty)) ∧
    (wrote = false → ∀ contents, site.files.readFile settings.path = .ok contents ↔
      initial.files.readFile settings.path = .ok contents) := by
  induction run with
  | start => exact ⟨fun isTrue => (nomatch isTrue), fun _ _ => Iff.rfl⟩
  | @next wrote writes before after _ step ih =>
    cases writes with
    | true =>
      rw [Bool.or_true]
      exact ⟨fun _ => step.fits hasQuota, fun isFalse => (nomatch isFalse)⟩
    | false =>
      rw [Bool.or_false]
      refine ⟨fun wasWritten => ?_, fun notWritten contents => ?_⟩
      · obtain ⟨contents, there, fits⟩ := ih.1 wasWritten
        exact ⟨contents, (step.keepsFile contents).mpr there, fits⟩
      · exact (step.keepsFile contents).trans (ih.2 notWritten contents)

/-- Settings with a quota. -/
def settingsWithin (quota : UInt64) : FileSettings := { path := "data", quota := some quota }

/-- A data file is created under a quota. -/
def createdWithin (quota : UInt64) : Site := (Storage.openFile (settingsWithin quota) {}).2

/-- A data file that is not there is written when it is opened. -/
theorem run_createdWithin {storage : Storage}
    (opens : Storage.openFile (settingsWithin quota) {} = (.ok storage, createdWithin quota)) :
    DataFileRun (settingsWithin quota) {} true (createdWithin quota) := by
  have missing : FileTree.pathExists {} "data" = false := by decide +kernel
  have isNew : (settingsWithin quota).startsAnew {} = true := by
    unfold FileSettings.startsAnew settingsWithin
    rw [missing]
    rfl
  have step := DataFileStep.opened opens
  rw [isNew] at step
  exact .next .start step

/-- A batch that a quota of forty bytes has room for. -/
def smallBatch : Records := .ofList [("list", .ofJson (.array [.null]))]

/-- The data file with this batch is within the quota. -/
theorem withinQuota_smallBatch :
    ∃ stored, Storage.store smallBatch (.file (settingsWithin 40) ⟨0⟩) (createdWithin 40) =
        (.ok (), stored) ∧
      stored.files.readFile "data" = .ok smallBatch.encode ∧ smallBatch.encode.size ≤ 40 := by
  have opens : Storage.openFile (settingsWithin 40) {} =
    (.ok (.file (settingsWithin 40) ⟨0⟩), createdWithin 40) := rfl
  have stores : Storage.store smallBatch (.file (settingsWithin 40) ⟨0⟩) (createdWithin 40) =
    (.ok (), (Storage.store smallBatch (.file (settingsWithin 40) ⟨0⟩) (createdWithin 40)).2) := rfl
  have run := DataFileRun.next (run_createdWithin opens) (.stored stores)
  obtain ⟨contents, there, within | ⟨small, _⟩⟩ := (run.withinQuota rfl).1 rfl
  · cases there
    exact ⟨_, stores, rfl, within⟩
  · exact absurd small (by decide)

/-- **A data file is created larger than its quota**, if that is a single byte. -/
theorem overQuota_createdWithin_one :
    DataFileRun (settingsWithin 1) {} true (createdWithin 1) ∧
      ∃ contents, (createdWithin 1).files.readFile "data" = .ok contents ∧
        (1 : UInt64).toNat < contents.size := by
  have opens : Storage.openFile (settingsWithin 1) {} =
    (.ok (.file (settingsWithin 1) ⟨0⟩), createdWithin 1) := rfl
  exact ⟨run_createdWithin opens, Records.encode .empty, rfl, by decide⟩

end StoreTopology

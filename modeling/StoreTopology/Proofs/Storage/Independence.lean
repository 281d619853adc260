/-
**What a file storage does to the data files of others.**

* `files_of_storeInFile`: storing replaces the own data file, or changes no file;
* `Site.KeepsFile`: a data file keeps its bytes, so that opening it again gives the same records;
* `Storage.store_spares`: storing keeps the data file of another storage, unless that file is the
  temporary file beside the own one;
* `Storage.store_loses_beside`: a data file that is the temporary file beside another one is lost
  when the storage of that one stores.
-/

import StoreTopology.Proofs.FileTree.Sparing
import StoreTopology.Proofs.Storage.Durability
import StoreTopology.Proofs.Storage.View

namespace StoreTopology

variable {settings : FileSettings} {cell : CellId} {batch : Records} {site before after : Site}
  {path : String} {outcome : Except StoreError Unit}

/-! ### Files that are kept -/

/-- The data file at a path keeps its bytes. Opening it again, but not anew, gives the same
answers, or fails for the same reason. -/
structure Site.KeepsFile (path : String) (before after : Site) : Prop where
  readFile : ∀ contents, before.files.readFile path = .ok contents →
    after.files.readFile path = .ok contents
  readRecords : readRecords path after.files = readRecords path before.files
  reopened : ∀ settings : FileSettings, settings.path = path → settings.create = false →
    ∀ storage opened, Storage.openFile settings before = (.ok storage, opened) →
      ∃ again reopened, Storage.openFile settings after = (.ok again, reopened) ∧
        again.keys reopened = storage.keys opened ∧
        ∀ key, again.load? reopened key = storage.load? opened key

/-- A data file that is opened, but not anew, answers from the records that it holds. -/
theorem Storage.answers_of_openFile {contents : ByteArray} {records : Records}
    (kept : settings.create = false) (there : site.files.readFile settings.path = .ok contents)
    (decoded : decodeRecords settings.path contents = .ok records) :
    ∃ storage opened, openFile settings site = (.ok storage, opened) ∧
      storage.keys opened = .ok records.keys ∧
      ∀ key, storage.load? opened key = .ok (records.get? key) := by
  have opens := openFile_of_readFile kept there
  rw [decoded] at opens
  have held := records?_addCell (site.log .debug ("Reading " ++ settings.path ++ "...")) records
  refine ⟨_, _, opens, ?_, fun key => ?_⟩
  · rw [(IsOpen.file held).keys_eq, view, held, Option.getD_some]
  · rw [(IsOpen.file held).load?_eq, view, held, Option.getD_some]

theorem Site.KeepsFile.of_readFile {contents : ByteArray}
    (there : before.files.readFile path = .ok contents)
    (thereAfter : after.files.readFile path = .ok contents) : Site.KeepsFile path before after where
  readFile := fun held isHeld => by rw [thereAfter, ← there, isHeld]
  readRecords := by
    unfold StoreTopology.readRecords
    rw [there, thereAfter]
  reopened := by
    rintro settings rfl kept storage opened opens
    cases decoded : decodeRecords settings.path contents with
    | error error =>
      rw [Storage.openFile_of_readFile kept there, decoded] at opens
      cases opens
    | ok records =>
      obtain ⟨_, _, opensBefore, keys, load⟩ := Storage.answers_of_openFile kept there decoded
      rw [opens] at opensBefore
      cases opensBefore
      obtain ⟨again, reopened, opensAgain, sameKeys, sameLoad⟩ :=
        Storage.answers_of_openFile kept thereAfter decoded
      exact ⟨again, reopened, opensAgain, sameKeys.trans keys.symm, fun key =>
        (sameLoad key).trans (load key).symm⟩

/-! ### Storing -/

namespace Storage

/-- Storing replaces the own data file, or changes no file. -/
theorem files_of_storeInFile (ran : storeInFile settings cell batch site = (outcome, after)) :
    outcome ≠ .ok () ∧ after.files = site.files ∨ ∃ contents result,
      site.files.replaceFile settings.path contents = (result, after.files) ∧
        (outcome = .ok () → result = .ok ()) := by
  have refused : ∀ error, (.error error : Except StoreError Unit) ≠ .ok () := fun _ same => by
    cases same
  rw [storeInFile_apply] at ran
  split at ran
  · cases ran
    exact .inl ⟨refused _, rfl⟩
  · split at ran
    · cases ran
      exact .inl ⟨refused _, rfl⟩
    · next records held =>
      dsimp only at ran
      split at ran
      · cases ran
        exact .inl ⟨refused _, rfl⟩
      · split at ran
        · next problem files failed =>
          cases ran
          exact .inr ⟨_, _, failed, fun same => (refused _ same).elim⟩
        · next files replaced =>
          cases ran
          exact .inr ⟨_, _, replaced, fun _ => rfl⟩

/-- **Storing keeps the data file of another storage, unless that file is the temporary file beside
the own one**; then it is gone after every batch that is stored. -/
theorem store_spares {contents : ByteArray}
    (differ : ¬ site.files.SameEntry settings.path path)
    (there : site.files.readFile path = .ok contents)
    (ran : Storage.store batch (.file settings cell) site = (outcome, after)) :
    (¬ site.files.SameEntry (temporaryPath settings.path) path → site.KeepsFile path after) ∧
      (site.files.SameEntry (temporaryPath settings.path) path → outcome = .ok () →
        ∀ held, after.files.readFile path ≠ .ok held) := by
  refine ⟨fun notBeside => .of_readFile there ?_, fun beside succeeded held => ?_⟩
  · rcases files_of_storeInFile ran with ⟨_, same⟩ | ⟨_, _, replaced, _⟩
    · rw [same]
      exact there
    · exact (FileTree.readFile_of_replaceFile_other replaced differ notBeside).mpr there
  · rcases files_of_storeInFile ran with ⟨failed, _⟩ | ⟨_, _, replaced, succeeds⟩
    · exact absurd succeeded failed
    · cases succeeds succeeded
      exact FileTree.readFile_of_replaceFile_beside replaced beside

/-! ### Two data files -/

/-- A site where two data files were created, the second of which is named as given. -/
def twoFilesSite (other : String) : Site :=
  (openFile { path := other } (openFile { path := "data" } {}).2).2

/-- A path of one name leads to the entry of that name in the top directory. -/
theorem leadsTo_name {files : FileTree} {name : String}
    (read : Path.read name = .ok ⟨[.down name], false⟩)
    (allowed : files.allows [] .search = true) (short : name.utf8ByteSize ≤ FileTree.nameLimit) :
    files.LeadsTo name [] name :=
  ⟨_, read, FileTree.locate_entry_iff.mpr ⟨rfl, rfl, allowed, rfl⟩, short⟩

/-- Paths of one name each lead to different entries if the names differ. -/
theorem not_sameEntry_of_ne {files : FileTree} {first second : String}
    (leads : files.LeadsTo first [] first) (leads' : files.LeadsTo second [] second)
    (differ : first ≠ second) : ¬ files.SameEntry first second := by
  rintro ⟨parent, name, leadsFirst, leadsSecond⟩
  exact differ ((leads.unique leadsFirst).2.trans (leads'.unique leadsSecond).2.symm)

/-- The first batch of one storage keeps the data file of the other. -/
theorem store_spares_elsewhere :
    ∃ after, Storage.store FileRun.firstBatch (.file { path := "data" } ⟨0⟩)
        (twoFilesSite "other") = (.ok (), after) ∧
      (twoFilesSite "other").KeepsFile "other" after := by
  have stores : Storage.store FileRun.firstBatch (.file { path := "data" } ⟨0⟩)
    (twoFilesSite "other") = (.ok (), _) := rfl
  have own : (twoFilesSite "other").files.LeadsTo "data" [] "data" :=
    leadsTo_name rfl rfl (by decide)
  have beside : (twoFilesSite "other").files.LeadsTo "data.tmp" [] "data.tmp" :=
    leadsTo_name rfl rfl (by decide)
  have other : (twoFilesSite "other").files.LeadsTo "other" [] "other" :=
    leadsTo_name rfl rfl (by decide)
  have there : (twoFilesSite "other").files.readFile "other" = .ok (Records.encode .empty) := rfl
  exact ⟨_, stores, (store_spares (not_sameEntry_of_ne own other (by decide)) there stores).1
    (not_sameEntry_of_ne beside other (by decide))⟩

/-- **A data file that is the temporary file beside another one is lost** when the storage of that
one stores. -/
theorem store_loses_beside :
    ∃ first after,
      openFile { path := "data" } {} = (.ok (.file { path := "data" } ⟨0⟩), first) ∧
      openFile { path := "data.tmp" } first =
        (.ok (.file { path := "data.tmp" } ⟨1⟩), twoFilesSite "data.tmp") ∧
      ¬ (twoFilesSite "data.tmp").files.SameEntry "data" "data.tmp" ∧
      Storage.store FileRun.firstBatch (.file { path := "data" } ⟨0⟩)
        (twoFilesSite "data.tmp") = (.ok (), after) ∧
      (twoFilesSite "data.tmp").files.readFile "data.tmp" = .ok (Records.encode .empty) ∧
      after.files.readFile "data.tmp" = .error .notFound := by
  refine ⟨_, _, rfl, rfl, ?_, rfl, rfl, rfl⟩
  exact not_sameEntry_of_ne (leadsTo_name rfl rfl (by decide)) (leadsTo_name rfl rfl (by decide))
    (by decide)

end Storage

end StoreTopology

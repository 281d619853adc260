/-
**A data file keeps the records of its storage.**

* `decodeRecords_encode`, `decodeRecords_encode_tooDeep`: records are read back as they were
  written, unless they are nested deeper than a reader goes;
* `FileRun`: storages of one data file are opened, store, are closed and opened again, in any order
  and number, while nothing else changes the file;
* `FileRun.keeps`: at every moment the data file holds the records that were last in memory after a
  success.
-/

import StoreTopology.Proofs.Json.Limit
import StoreTopology.Proofs.Json.RoundTrip
import StoreTopology.Proofs.Storage.DataFile

namespace StoreTopology

open Text (bytesOf bytesOf_append)

variable {path : String} {records : Records}

/-! ### Encoding and decoding -/

/-- The text of an object begins with a brace. -/
theorem bytesOf_pretty_object (members : List (String × Json)) :
    ∃ rest, bytesOf (Json.object members).pretty = 0x7b :: rest := by
  cases members with
  | nil => exact ⟨[0x7d], by decide⟩
  | cons member rest =>
    unfold Json.pretty
    rw [Json.prettyAt]
    simp only [String.append_assoc, bytesOf_append]
    exact ⟨_, rfl⟩

/-- The bytes of a data file are not blank. -/
theorem encode_notBlank (records : Records) :
    (Records.encode records).data.toList.all isBlankFileByte = false := by
  obtain ⟨rest, begins⟩ := bytesOf_pretty_object
    (records.entries.map fun entry => (entry.1, entry.2.json))
  show (bytesOf records.toJson.pretty).all isBlankFileByte = false
  unfold Records.toJson
  rw [begins]
  rfl

/-- Records are made from the members that they are written as. -/
theorem toJson_ofMembers (records : Records) :
    ∃ members, records.toJson = .object members ∧ Records.ofMembers members = records := by
  refine ⟨_, rfl, ?_⟩
  unfold Records.ofMembers
  rw [List.map_map]
  have same : ((fun member => (member.1, Record.ofJson member.2)) ∘
      fun entry : String × Record => (entry.1, entry.2.json)) = id := by
    funext entry
    show (entry.1, Record.ofJson entry.2.json) = entry
    rw [Record.ofJson_json]
  rw [same, List.map_id, SortedMap.ofList_entries]

/-- Records are read back as they were written. -/
theorem decodeRecords_encode (path : String) (floatFree : records.toJson.isFloatFree = true)
    (shallow : records.toJson.depth ≤ Json.depthLimit) :
    decodeRecords path records.encode = .ok records := by
  obtain ⟨members, same, rebuilt⟩ := toJson_ofMembers records
  have read : Json.read records.encode.data.toList = .ok (.object members) :=
    same ▸ Json.readWithin_pretty floatFree shallow
  unfold decodeRecords
  dsimp only
  rw [encode_notBlank, read]
  show Except.ok (Records.ofMembers members) = .ok records
  rw [rebuilt]

/-- Records that are nested too deep are written, and cannot be read. -/
theorem decodeRecords_encode_tooDeep (path : String)
    (floatFree : records.toJson.isFloatFree = true)
    (deep : Json.depthLimit < records.toJson.depth) :
    ∃ error, decodeRecords path records.encode = .error (.unreadable error) := by
  obtain ⟨error, failed, _⟩ := Json.readWithin_pretty_tooDeep floatFree deep
  have read : Json.read records.encode.data.toList = .error error := failed
  refine ⟨error, ?_⟩
  unfold decodeRecords
  dsimp only
  rw [encode_notBlank, read]
  rfl

/-- Records that were read are nested no deeper than a reader goes. -/
theorem depth_le_of_decodeRecords {contents : ByteArray}
    (decoded : decodeRecords path contents = .ok records) :
    records.toJson.depth ≤ Json.depthLimit := by
  unfold decodeRecords at decoded
  dsimp only at decoded
  split at decoded
  · cases decoded
    decide
  · split at decoded
    · cases decoded
    · next members read =>
      cases decoded
      exact Nat.le_trans (Records.depth_toJson_ofMembers_le members)
        (Json.depth_le_of_readWithin read)
    · cases decoded

/-! ### Runs -/

/-- What the storages of one data file do, one step after another, with success or without: they are
opened, they store a batch, they are closed. In between anything may happen that leaves the data
file as it is. On record is what the storage had in memory after the last opening or storing that
succeeded. -/
inductive FileRun (path : String) (initial : Site) : Option (Option Records) → Site → Prop
  | start : FileRun path initial none initial
  | opened {memory : Option (Option Records)} {site after : Site} {settings : FileSettings}
      {cell : CellId} (before : FileRun path initial memory site)
      (ofPath : settings.path = path)
      (succeeded : Storage.openFile settings site = (.ok (.file settings cell), after)) :
      FileRun path initial (some (after.records? cell)) after
  | notOpened {memory : Option (Option Records)} {site after : Site} {settings : FileSettings}
      {error : StoreError} (before : FileRun path initial memory site)
      (ofPath : settings.path = path)
      (failed : Storage.openFile settings site = (.error error, after)) :
      FileRun path initial memory after
  | stored {memory : Option (Option Records)} {site after : Site} {settings : FileSettings}
      {cell : CellId} {batch : Records} (before : FileRun path initial memory site)
      (ofPath : settings.path = path)
      (succeeded : Storage.store batch (.file settings cell) site = (.ok (), after)) :
      FileRun path initial (some (after.records? cell)) after
  | notStored {memory : Option (Option Records)} {site after : Site} {settings : FileSettings}
      {cell : CellId} {batch : Records} {error : StoreError}
      (before : FileRun path initial memory site) (ofPath : settings.path = path)
      (failed : Storage.store batch (.file settings cell) site = (.error error, after)) :
      FileRun path initial memory after
  | closed {memory : Option (Option Records)} {site after : Site} {settings : FileSettings}
      {cell : CellId} {result : Except StoreError Unit}
      (before : FileRun path initial memory site) (ofPath : settings.path = path)
      (closes : Storage.close (.file settings cell) site = (result, after)) :
      FileRun path initial memory after
  | elsewhere {memory : Option (Option Records)} {site after : Site}
      (before : FileRun path initial memory site)
      (untouched : after.files.readFile path = site.files.readFile path) :
      FileRun path initial memory after

/-- The contents of a data file hold records: they are what is read from them, or what was written
for them. -/
def HeldBy (path : String) (contents : ByteArray) (records : Records) : Prop :=
  decodeRecords path contents = .ok records ∨ contents = records.encode

/-- Records that are held by a data file are read from it exactly if a reader goes deep enough. -/
theorem HeldBy.decode_iff {contents : ByteArray} (held : HeldBy path contents records)
    (floatFree : records.toJson.isFloatFree = true) :
    (decodeRecords path contents = .ok records ↔ records.toJson.depth ≤ Json.depthLimit) ∧
      (Json.depthLimit < records.toJson.depth →
        ∃ error, decodeRecords path contents = .error (.unreadable error)) := by
  refine ⟨⟨depth_le_of_decodeRecords, fun shallow => ?_⟩, fun deep => ?_⟩
  · rcases held with decoded | rfl
    · exact decoded
    · exact decodeRecords_encode path floatFree shallow
  · rcases held with decoded | rfl
    · exact absurd (depth_le_of_decodeRecords decoded) (Nat.not_le.mpr deep)
    · exact decodeRecords_encode_tooDeep path floatFree deep

namespace FileRun

variable {initial site : Site} {memory : Option Records}

/-- The data file holds what was last in memory after a success. -/
theorem held {last : Option (Option Records)} (run : FileRun path initial last site) :
    ∀ memory, last = some memory → ∃ records contents, memory = some records ∧
      site.files.readFile path = .ok contents ∧ HeldBy path contents records := by
  induction run with
  | start => exact fun _ none => nomatch none
  | opened before ofPath succeeded _ =>
    intro memory isLast
    cases isLast
    subst ofPath
    obtain ⟨_, records, same, inMemory, source⟩ := Storage.openFile_eq_ok succeeded
    cases same
    rcases source with ⟨sameFiles, read⟩ | ⟨rfl, replaced⟩
    · unfold readRecords at read
      split at read
      · cases read
      · next contents there =>
        exact ⟨records, contents, inMemory, sameFiles ▸ there, .inl read⟩
    · exact ⟨_, _, inMemory, FileTree.readFile_of_replaceFile replaced, .inr rfl⟩
  | notOpened _ ofPath failed ih =>
    subst ofPath
    intro memory isLast
    obtain ⟨records, contents, inMemory, there, held⟩ := ih memory isLast
    exact ⟨records, contents, inMemory, Storage.readFile_of_openFile_error failed there, held⟩
  | stored _ ofPath succeeded _ =>
    intro memory isLast
    cases isLast
    subst ofPath
    obtain ⟨records, _, inMemory, replaced⟩ := Storage.storeInFile_eq_ok succeeded
    exact ⟨_, _, inMemory, FileTree.readFile_of_replaceFile replaced, .inr rfl⟩
  | notStored _ ofPath failed ih =>
    subst ofPath
    intro memory isLast
    obtain ⟨records, contents, inMemory, there, held⟩ := ih memory isLast
    exact ⟨records, contents, inMemory, Storage.readFile_of_storeInFile_error failed there, held⟩
  | closed _ _ closes ih =>
    cases closes
    exact ih
  | elsewhere _ untouched ih =>
    rw [untouched]
    exact ih

/-- **At every moment the data file holds the records that were last in memory after a success.**
They are read from it exactly if they are nested at most 127 deep: then a storage that is opened
without starting anew has the same keys and values. Records that are nested deeper keep a storage
from being opened. -/
theorem keeps (run : FileRun path initial (some memory) site) :
    ∃ records, memory = some records ∧ (records.toJson.isFloatFree = true →
      (readRecords path site.files = .ok records ↔ records.toJson.depth ≤ 127) ∧
      ∀ settings : FileSettings, settings.path = path → settings.create = false →
        (records.toJson.depth ≤ 127 → ∃ storage after,
          Storage.openFile settings site = (.ok storage, after) ∧
            storage.keys after = .ok records.keys ∧
            ∀ key, storage.load? after key = .ok (records.get? key)) ∧
        (127 < records.toJson.depth → ∃ error after,
          Storage.openFile settings site = (.error (.unreadable error), after))) := by
  obtain ⟨records, contents, inMemory, there, held⟩ := run.held memory rfl
  refine ⟨records, inMemory, fun floatFree => ?_⟩
  obtain ⟨readable, unreadable⟩ := held.decode_iff floatFree
  have read : readRecords path site.files = decodeRecords path contents := by
    unfold readRecords
    rw [there]
  refine ⟨by rw [read]; exact readable, fun settings ofPath kept => ?_⟩
  subst ofPath
  have opens := Storage.openFile_of_readFile kept there
  refine ⟨fun shallow => ?_, fun deep => ?_⟩
  · rw [readable.mpr shallow] at opens
    have cell := Storage.cellRecords_of_held settings.path (Storage.records?_addCell
      (site.log .debug ("Reading " ++ settings.path ++ "...")) records)
    refine ⟨_, _, opens, ?_, fun key => ?_⟩
    · unfold Storage.keys
      rw [cell]
      rfl
    · unfold Storage.load?
      rw [cell]
      rfl
  · obtain ⟨error, failed⟩ := unreadable deep
    rw [failed] at opens
    exact ⟨error, _, opens⟩

/-- A batch for a new data file. -/
def firstBatch : Records := .ofList [("list", .ofJson (.array [.null]))]

/-- A site where a data file was created. -/
def newFileSite : Site := (Storage.openFile { path := "data" } {}).2

/-- The first batch of a new data file is read back. -/
theorem keeps_firstBatch :
    ∃ stored, FileRun "data" {} (some (some firstBatch)) stored ∧
      readRecords "data" stored.files = .ok firstBatch := by
  have opens : Storage.openFile { path := "data" } {} =
    (.ok (.file { path := "data" } ⟨0⟩), newFileSite) := rfl
  have stores : Storage.store firstBatch (.file { path := "data" } ⟨0⟩) newFileSite =
    (.ok (), (Storage.store firstBatch (.file { path := "data" } ⟨0⟩) newFileSite).2) := rfl
  have run : FileRun "data" {} (some (some firstBatch)) _ :=
    .stored (.opened .start rfl opens) rfl stores
  obtain ⟨records, same, kept⟩ := keeps run
  cases same
  exact ⟨_, run, (kept rfl).1.mpr (by decide)⟩

end FileRun

end StoreTopology

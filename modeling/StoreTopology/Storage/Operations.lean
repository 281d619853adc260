/-
**Operations of storages.**

* `load?`, `keys`: questions, which change nothing;
* `store`: adds a batch of records, all or none of them;
* `close`: empties the memory cells for good, those of a base too; a faulty storage has none, and
  that it was asked to close is remembered, since its failure may be passed over;
* `cleanUp`: removes the files that a storage may have created.
-/

import StoreTopology.Storage.File

namespace StoreTopology.Storage

/-! ### Questions -/

/-- The records of a cell, whose storage has a name. -/
def cellRecords (site : Site) (name : String) (cell : CellId) : Except StoreError Records :=
  match site.records? cell with
  | some records => .ok records
  | none => .error (.closed name)

/-- The record under a key. A demo storage looks among its changes first. -/
def load? (site : Site) (key : String) : Storage → Except StoreError (Option Record)
  | mapping name cell => (cellRecords site name cell).map fun records => records.get? key
  | memory name _ cell => (cellRecords site name cell).map fun records => records.get? key
  | file settings cell =>
    (cellRecords site settings.path cell).map fun records => records.get? key
  | demo name base changes => do
    let changed ← cellRecords site (changesName name) changes
    match changed.get? key with
    | some record => return some record
    | none => base.load? site key
  | faulty name failing =>
    if .load ∈ failing then .error (.corrupt name (.failed .load)) else .ok none

/-- The keys that occur in either of two lists, in increasing order and each once. -/
def mergeKeys (first second : List String) : List String :=
  (SortedMap.ofList ((first ++ second).map fun key => (key, ()))).keys

/-- The keys of all records, in increasing order. -/
def keys (site : Site) : Storage → Except StoreError (List String)
  | mapping name cell => (cellRecords site name cell).map SortedMap.keys
  | memory name _ cell => (cellRecords site name cell).map SortedMap.keys
  | file settings cell => (cellRecords site settings.path cell).map SortedMap.keys
  | demo name base changes => do
    let below ← base.keys site
    let changed ← cellRecords site (changesName name) changes
    return mergeKeys below changed.keys
  | faulty name failing =>
    if .keys ∈ failing then .error (.corrupt name (.failed .keys)) else .ok ["ghost"]

/-! ### Changes -/

/-- Lay a batch over the records of a cell. -/
def storeInCell (name : String) (cell : CellId) (batch : Records) : Action StoreError Unit := do
  let site ← Action.site
  let records ← Action.ofExcept (cellRecords site name cell)
  .change fun site => site.setRecords cell (some (records.overlay batch))

/-- Lay a batch over the records of a file storage, within its quota, and write the data file. -/
def storeInFile (settings : FileSettings) (cell : CellId) (batch : Records) :
    Action StoreError Unit := do
  if settings.readOnly then throw (.readOnly settings.path)
  let site ← Action.site
  let records ← Action.ofExcept (cellRecords site settings.path cell)
  let updated : Records := records.overlay batch
  let contents := updated.encode
  if let some quota := settings.quota then
    if quota.toNat < contents.size then
      throw (.quotaExceeded settings.path quota contents.size)
  .log .debug ("Writing " ++ settings.path ++ "...")
  .onFiles fun files => files.replaceFile settings.path contents
  .change fun site => site.setRecords cell (some updated)

/-- Add a batch of records. A demo storage adds it to its changes. -/
def store (batch : Records) : Storage → Action StoreError Unit
  | mapping name cell => storeInCell name cell batch
  | memory name readOnly cell =>
    if readOnly then throw (.readOnly name) else storeInCell name cell batch
  | file settings cell => storeInFile settings cell batch
  | demo name _ changes => storeInCell (changesName name) changes batch
  | faulty name failing =>
    if .store ∈ failing then throw (.corrupt name (.failed .store)) else pure ()

/-- Close the storage, and its base after it. -/
def close : Storage → Action StoreError Unit
  | mapping _ cell => .change fun site => site.setRecords cell none
  | memory _ _ cell => .change fun site => site.setRecords cell none
  | file _ cell => .change fun site => site.setRecords cell none
  | demo _ base changes => do
    .change fun site => site.setRecords changes none
    base.close
  | faulty name failing => do
    .change fun site => site.remember (.asked name)
    if .close ∈ failing then throw (.corrupt name (.failed .close))

/-- A removal that succeeds also if there is nothing to remove. -/
def ifPresent (removal : FileTree → Except FileProblem Unit × FileTree) (files : FileTree) :
    Except FileProblem Unit × FileTree :=
  match removal files with
  | (.error .notFound, after) => (.ok (), after)
  | other => other

/-- The removal of one file. -/
def removal (path : String) (files : FileTree) : Except FileProblem Unit × FileTree :=
  match files.removeFile path with
  | .ok after => (.ok (), after)
  | .error problem => (.error problem, files)

/-- Remove the files that the storage may have created: the data file, the temporary file beside it
and the blob directory of a file storage, of a base too. -/
def cleanUp : Storage → Action StoreError Unit
  | file settings _ => do
    .onFiles (ifPresent (removal settings.path))
    .onFiles (ifPresent (removal (temporaryPath settings.path)))
    if let some directory := settings.blobDirectory then
      .onFiles (ifPresent fun files => files.removeAll directory)
  | demo _ base _ => base.cleanUp
  | mapping _ _ | memory _ _ _ | faulty _ _ => pure ()

/-! ### New storages -/

/-- A mapping storage with records. -/
def newMapping {ε : Type} (name : String) (records : Records) : Action ε Storage := do
  let cell ← Action.create fun site => site.addCell records
  return .mapping name cell

/-- A memory storage without records. -/
def newMemory {ε : Type} (name : String) (readOnly : Bool) : Action ε Storage := do
  let cell ← Action.create fun site => site.addCell .empty
  return .memory name readOnly cell

/-- A demo storage over a base, with a name of its own or one made from the base's. -/
def newDemo {ε : Type} (name : Option String) (base : Storage) : Action ε Storage := do
  let changes ← Action.create fun site => site.addCell .empty
  return .demo (name.getD base.demoName) base changes

/-- The keys written through a demo storage. -/
def changedKeys (site : Site) (name : String) (changes : CellId) :
    Except StoreError (List String) :=
  (cellRecords site (changesName name) changes).map SortedMap.keys

end StoreTopology.Storage

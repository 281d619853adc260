/-
**The records that a storage shows.**

* `Storage.view`: the records of a storage, the changes of a demo storage laid over those of its
  base;
* `Storage.IsReadable`: a storage all of whose cells have records;
* `Storage.IsReadable.load?_eq`, `Storage.IsReadable.keys_eq`: it answers from what it shows;
* `Storage.IsOpen`: a readable storage each of whose cells serves one purpose;
* `Storage.IsOpen.store_eq_ok`, `Storage.IsOpen.store_eq_error`: a batch is laid over it as a whole,
  or is refused and changes nothing;
* `Storage.isOpen_newMapping` and others: new storages are open.
-/

import StoreTopology.Proofs.Storage.DataFile

namespace StoreTopology

open StoreTopology.Action

namespace Storage

variable {site after : Site} {storage : Storage} {batch : Records}

/-! ### What a storage shows -/

/-- The records that a storage shows. -/
def view (site : Site) : Storage → Records
  | mapping _ cell => (site.records? cell).getD .empty
  | memory _ _ cell => (site.records? cell).getD .empty
  | file _ cell => (site.records? cell).getD .empty
  | demo _ base changes => (base.view site).overlay ((site.records? changes).getD .empty)
  | faulty _ _ => .empty

/-- All cells of a storage have records. -/
inductive IsReadable (site : Site) : Storage → Prop
  | mapping {name : String} {cell : CellId} {records : Records}
      (held : site.records? cell = some records) : IsReadable site (.mapping name cell)
  | memory {name : String} {readOnly : Bool} {cell : CellId} {records : Records}
      (held : site.records? cell = some records) : IsReadable site (.memory name readOnly cell)
  | file {settings : FileSettings} {cell : CellId} {records : Records}
      (held : site.records? cell = some records) : IsReadable site (.file settings cell)
  | demo {name : String} {base : Storage} {changes : CellId} {records : Records}
      (isReadable : IsReadable site base) (held : site.records? changes = some records) :
      IsReadable site (.demo name base changes)

/-- The cells of a storage have records, and those that a demo storage writes to are none of its
base's. -/
inductive IsOpen (site : Site) : Storage → Prop
  | mapping {name : String} {cell : CellId} {records : Records}
      (held : site.records? cell = some records) : IsOpen site (.mapping name cell)
  | memory {name : String} {readOnly : Bool} {cell : CellId} {records : Records}
      (held : site.records? cell = some records) : IsOpen site (.memory name readOnly cell)
  | file {settings : FileSettings} {cell : CellId} {records : Records}
      (held : site.records? cell = some records) : IsOpen site (.file settings cell)
  | demo {name : String} {base : Storage} {changes : CellId} {records : Records}
      (isOpen : IsOpen site base) (held : site.records? changes = some records)
      (own : changes ∉ base.cells) : IsOpen site (.demo name base changes)

/-- A storage shows the same as long as its cells have the same records. -/
theorem view_congr (same : ∀ cell ∈ storage.cells, after.records? cell = site.records? cell) :
    storage.view after = storage.view site := by
  induction storage with
  | mapping name cell => rw [view, same cell List.mem_cons_self, view]
  | memory name readOnly cell => rw [view, same cell List.mem_cons_self, view]
  | file settings cell => rw [view, same cell List.mem_cons_self, view]
  | demo name base changes ih =>
    rw [view, view, same changes List.mem_cons_self,
      ih fun cell own => same cell (List.mem_cons_of_mem _ own)]
  | faulty name failing => rfl

/-- The keys of two maps together are those of one laid over the other. -/
theorem mergeKeys_keys (lower upper : Records) :
    mergeKeys lower.keys upper.keys = (lower.overlay upper).keys := by
  apply SortedMap.keys_eq_of_contains
  intro key
  rw [Bool.eq_iff_iff, SortedMap.contains_ofList, SortedMap.contains_overlay, List.map_map,
    List.map_id'', List.mem_append, SortedMap.mem_keys, SortedMap.mem_keys, Bool.or_eq_true,
    or_comm]
  exact fun _ => rfl

/-- A cell that is as open as before has records as before. -/
theorem exists_records {cell : CellId} {records : Records}
    (filled : (after.records? cell).isSome = (site.records? cell).isSome)
    (held : site.records? cell = some records) : ∃ records, after.records? cell = some records := by
  rw [held, Option.isSome_some] at filled
  exact Option.isSome_iff_exists.mp filled

namespace IsReadable

theorem of_isSome (isReadable : IsReadable site storage)
    (filled : ∀ cell, (after.records? cell).isSome = (site.records? cell).isSome) :
    IsReadable after storage := by
  induction isReadable with
  | mapping held => exact .mapping (exists_records (filled _) held).choose_spec
  | memory held => exact .memory (exists_records (filled _) held).choose_spec
  | file held => exact .file (exists_records (filled _) held).choose_spec
  | demo _ held ih => exact .demo ih (exists_records (filled _) held).choose_spec

/-- A readable storage answers with the record that it shows. -/
theorem load?_eq (isReadable : IsReadable site storage) (key : String) :
    storage.load? site key = .ok ((storage.view site).get? key) := by
  induction isReadable with
  | mapping held => rw [load?, cellRecords_of_held _ held, view, held]; rfl
  | memory held => rw [load?, cellRecords_of_held _ held, view, held]; rfl
  | file held => rw [load?, cellRecords_of_held _ held, view, held]; rfl
  | @demo name base changes records _ held ih =>
    rw [load?, cellRecords_of_held _ held, view, held, Option.getD_some, SortedMap.get?_overlay]
    dsimp only [bind, Except.bind]
    cases records.get? key with
    | some record => rfl
    | none => exact ih

/-- A readable storage lists the keys of what it shows. -/
theorem keys_eq (isReadable : IsReadable site storage) :
    storage.keys site = .ok (storage.view site).keys := by
  induction isReadable with
  | mapping held => rw [Storage.keys, cellRecords_of_held _ held, view, held]; rfl
  | memory held => rw [Storage.keys, cellRecords_of_held _ held, view, held]; rfl
  | file held => rw [Storage.keys, cellRecords_of_held _ held, view, held]; rfl
  | @demo name base changes records _ held ih =>
    rw [Storage.keys, ih, cellRecords_of_held _ held, view, held, Option.getD_some]
    show Except.ok (mergeKeys (base.view site).keys records.keys) = _
    rw [mergeKeys_keys]

end IsReadable

namespace IsOpen

theorem congr (isOpen : IsOpen site storage)
    (same : ∀ cell ∈ storage.cells, after.records? cell = site.records? cell) :
    IsOpen after storage := by
  induction isOpen with
  | mapping held => exact .mapping ((same _ List.mem_cons_self).trans held)
  | memory held => exact .memory ((same _ List.mem_cons_self).trans held)
  | file held => exact .file ((same _ List.mem_cons_self).trans held)
  | demo _ held own ih =>
    exact .demo (ih fun cell inBase => same cell (List.mem_cons_of_mem _ inBase))
      ((same _ List.mem_cons_self).trans held) own

theorem of_isSome (isOpen : IsOpen site storage)
    (filled : ∀ cell, (after.records? cell).isSome = (site.records? cell).isSome) :
    IsOpen after storage := by
  induction isOpen with
  | mapping held => exact .mapping (exists_records (filled _) held).choose_spec
  | memory held => exact .memory (exists_records (filled _) held).choose_spec
  | file held => exact .file (exists_records (filled _) held).choose_spec
  | demo _ held own ih => exact .demo ih (exists_records (filled _) held).choose_spec own

theorem allocated (isOpen : IsOpen site storage) :
    ∀ cell ∈ storage.cells, cell.number < site.cells.next := by
  induction isOpen with
  | mapping held => exact List.forall_mem_singleton.mpr (Site.allocated_of_records? held)
  | memory held => exact List.forall_mem_singleton.mpr (Site.allocated_of_records? held)
  | file held => exact List.forall_mem_singleton.mpr (Site.allocated_of_records? held)
  | demo _ held _ ih => exact List.forall_mem_cons.mpr ⟨Site.allocated_of_records? held, ih⟩

/-! ### Answers -/

theorem isReadable (isOpen : IsOpen site storage) : IsReadable site storage := by
  induction isOpen with
  | mapping held => exact .mapping held
  | memory held => exact .memory held
  | file held => exact .file held
  | demo _ held _ ih => exact .demo ih held

/-- An open storage answers with the record that it shows. -/
theorem load?_eq (isOpen : IsOpen site storage) (key : String) :
    storage.load? site key = .ok ((storage.view site).get? key) := isOpen.isReadable.load?_eq key

/-- An open storage lists the keys of what it shows. -/
theorem keys_eq (isOpen : IsOpen site storage) :
    storage.keys site = .ok (storage.view site).keys := isOpen.isReadable.keys_eq

end IsOpen

/-! ### Batches -/

/-- The cell that a storage writes to. -/
def ownCell? : Storage → Option CellId
  | mapping _ cell => some cell
  | memory _ _ cell => some cell
  | file _ cell => some cell
  | demo _ _ changes => some changes
  | faulty _ _ => none

/-- A batch was laid over the records of one cell, and all others are as they were. -/
structure Lays (cell : CellId) (batch : Records) (site after : Site) : Prop where
  laid : ∃ records, site.records? cell = some records ∧
    after.records? cell = some (records.overlay batch)
  others : ∀ other, other ≠ cell → after.records? other = site.records? other

namespace Lays

variable {cell : CellId}

/-- No cell is opened or closed. -/
theorem isSome_eq (lays : Lays cell batch site after) (other : CellId) :
    (after.records? other).isSome = (site.records? other).isSome := by
  by_cases same : other = cell
  · obtain ⟨records, held, laid⟩ := lays.laid
    rw [same, held, laid]
    rfl
  · rw [lays.others other same]

/-- Keys that are not in the batch have the records that they had, in each cell. -/
theorem get?_eq (lays : Lays cell batch site after) {key : String}
    (notInBatch : batch.get? key = none) (other : CellId) :
    ((after.records? other).getD .empty).get? key =
      ((site.records? other).getD .empty).get? key := by
  by_cases same : other = cell
  · obtain ⟨records, held, laid⟩ := lays.laid
    rw [same, held, laid, Option.getD_some, Option.getD_some, SortedMap.get?_overlay, notInBatch,
      Option.none_or]
  · rw [lays.others other same]

theorem get?_view_eq (lays : Lays cell batch site after) {key : String}
    (notInBatch : batch.get? key = none) (storage : Storage) :
    (storage.view after).get? key = (storage.view site).get? key := by
  induction storage with
  | mapping name own => exact lays.get?_eq notInBatch own
  | memory name readOnly own => exact lays.get?_eq notInBatch own
  | file settings own => exact lays.get?_eq notInBatch own
  | demo name base changes ih =>
    rw [view, view, SortedMap.get?_overlay, SortedMap.get?_overlay, ih,
      lays.get?_eq notInBatch changes]
  | faulty name failing => rfl

/-- A batch laid over the records of the cell that a storage writes to is laid over all that it
shows, whichever cells its layers share. -/
theorem view_eq (lays : Lays cell batch site after) (isOwn : storage.ownCell? = some cell) :
    storage.view after = (storage.view site).overlay batch := by
  apply SortedMap.ext_get?
  intro key
  rw [SortedMap.get?_overlay]
  cases inBatch : batch.get? key with
  | none => rw [lays.get?_view_eq inBatch storage, Option.none_or]
  | some record =>
    -- The own cell of a storage is looked at first.
    obtain ⟨records, _, laid⟩ := lays.laid
    have found : ((after.records? cell).getD .empty).get? key = some record := by
      rw [laid, Option.getD_some, SortedMap.get?_overlay, inBatch, Option.some_or]
    rw [Option.some_or]
    cases storage with
    | mapping name own => cases isOwn; exact found
    | memory name readOnly own => cases isOwn; exact found
    | file settings own => cases isOwn; exact found
    | demo name base changes =>
      cases isOwn
      rw [view, SortedMap.get?_overlay, found, Option.some_or]
    | faulty name failing => cases isOwn

end Lays

/-- Why an open storage refuses a batch: it is read-only, the quota of its data file is exceeded, or
the file cannot be written. -/
inductive Refuses (site : Site) (batch : Records) (storage : Storage) : StoreError → Prop
  | readOnly (isReadOnly : storage.isReadOnly = true) :
      Refuses site batch storage (.readOnly storage.name)
  | quotaExceeded {settings : FileSettings} {cell : CellId} {quota : UInt64}
      (isFile : storage = .file settings cell) (hasQuota : settings.quota = some quota)
      (exceeded : quota.toNat < (Records.encode ((storage.view site).overlay batch)).size) :
      Refuses site batch storage (.quotaExceeded settings.path quota
        (Records.encode ((storage.view site).overlay batch)).size)
  | notWritten {settings : FileSettings} {cell : CellId} {problem : FileProblem}
      (isFile : storage = .file settings cell)
      (failed : (site.files.replaceFile settings.path
        (Records.encode ((storage.view site).overlay batch))).1 = .error problem) :
      Refuses site batch storage (.files problem)

/-- Storing a batch lays it over the records of the own cell, or is refused and changes no cell. -/
inductive Stores (storage : Storage) (batch : Records) (site : Site) :
    Except StoreError Unit → Site → Prop
  | laid {cell : CellId} {records : Records} {after : Site}
      (isOwn : storage.ownCell? = some cell) (held : site.records? cell = some records)
      (cells : after.cells = (site.setRecords cell (some (records.overlay batch))).cells) :
      Stores storage batch site (.ok ()) after
  | refused {error : StoreError} {after : Site} (refuses : storage.Refuses site batch error)
      (cells : after.cells = site.cells) : Stores storage batch site (.error error) after

/-- A batch that is stored is laid over the records of the cell that the storage writes to. -/
theorem lays_of_stores (stores : storage.Stores batch site (.ok ()) after) :
    ∃ cell, storage.ownCell? = some cell ∧ Lays cell batch site after := by
  cases stores with
  | @laid cell records _ isOwn held cells =>
    have sameRecords : ∀ other, after.records? other =
        (site.setRecords cell (some (records.overlay batch))).records? other := fun other => by
      rw [Site.records?, cells, Site.records?]
    refine ⟨cell, isOwn, ⟨records, held, (sameRecords cell).trans (records?_setRecords held)⟩,
      fun other differ => (sameRecords other).trans (Site.records?_setRecords_of_ne differ)⟩

theorem storeInCell_apply (name : String) (cell : CellId) (batch : Records) (site : Site) :
    storeInCell name cell batch site =
      match site.records? cell with
      | none => (.error (.closed name), site)
      | some records => (.ok (), site.setRecords cell (some (records.overlay batch))) := by
  unfold storeInCell
  rw [bind_of_ok site_apply]
  unfold cellRecords
  cases site.records? cell with
  | none => rfl
  | some records => rfl

theorem storeInCell_stores {name : String} {cell : CellId} {records : Records}
    (isOwn : storage.ownCell? = some cell) (held : site.records? cell = some records) :
    storage.Stores batch site (storeInCell name cell batch site).1
      (storeInCell name cell batch site).2 := by
  unfold storeInCell
  rw [bind_of_ok site_apply, cellRecords_of_held name held]
  exact .laid isOwn held rfl

theorem storeInFile_stores {settings : FileSettings} {cell : CellId} {records : Records}
    (held : site.records? cell = some records) :
    (file settings cell).Stores batch site (storeInFile settings cell batch site).1
      (storeInFile settings cell batch site).2 := by
  have shown : (file settings cell).view site = records := by rw [view, held, Option.getD_some]
  rw [storeInFile_apply, held]
  dsimp only
  split
  · next isReadOnly => exact .refused (.readOnly isReadOnly) rfl
  · split
    · next quota exceeded =>
      obtain ⟨hasQuota, larger⟩ := exceededQuota_eq_some_iff.mp exceeded
      rw [← shown] at larger ⊢
      exact .refused (.quotaExceeded rfl hasQuota larger) rfl
    · split
      · next problem files failed =>
        rw [← shown] at failed
        exact .refused (.notWritten rfl (congrArg Prod.fst failed)) rfl
      · exact .laid rfl held rfl

namespace IsOpen

theorem stores (isOpen : IsOpen site storage) (batch : Records) :
    storage.Stores batch site (storage.store batch site).1 (storage.store batch site).2 := by
  cases isOpen with
  | mapping held => exact storeInCell_stores rfl held
  | @memory name readOnly cell records held =>
    rw [store]
    cases readOnly with
    | true => exact .refused (.readOnly rfl) rfl
    | false => exact storeInCell_stores rfl held
  | file held => exact storeInFile_stores held
  | demo _ held _ => exact storeInCell_stores rfl held

/-- A batch that an open storage stores is laid over what it shows. -/
theorem store_eq_ok (isOpen : IsOpen site storage)
    (stored : storage.store batch site = (.ok (), after)) :
    IsOpen after storage ∧ storage.view after = (storage.view site).overlay batch := by
  have stores := isOpen.stores batch
  rw [stored] at stores
  obtain ⟨cell, isOwn, lays⟩ := lays_of_stores stores
  exact ⟨isOpen.of_isSome lays.isSome_eq, lays.view_eq isOwn⟩

/-- A batch that an open storage refuses changes nothing that it shows. -/
theorem store_eq_error (isOpen : IsOpen site storage) {error : StoreError}
    (failed : storage.store batch site = (.error error, after)) :
    storage.Refuses site batch error ∧ ∀ cell, after.records? cell = site.records? cell := by
  have stores := isOpen.stores batch
  rw [failed] at stores
  cases stores with
  | refused refuses cells =>
    exact ⟨refuses, fun cell => by rw [Site.records?, cells, Site.records?]⟩

end IsOpen

/-! ### New storages -/

/-- A new mapping storage is open and shows the records that it was given. -/
theorem isOpen_newMapping {ε : Type} {name : String} {records : Records}
    (made : (newMapping name records : Action ε Storage) site = (.ok storage, after)) :
    IsOpen after storage ∧ storage.view after = records := by
  cases made
  refine ⟨.mapping (records?_addCell site records), ?_⟩
  show ((site.addCell records).2.records? (site.addCell records).1).getD .empty = records
  rw [records?_addCell, Option.getD_some]

/-- A storage of a data file is open. -/
theorem isOpen_openFile {settings : FileSettings}
    (opened : openFile settings site = (.ok storage, after)) : IsOpen after storage := by
  obtain ⟨cell, records, rfl, held, _⟩ := openFile_eq_ok opened
  exact .file held

/-- A new demo storage over an open base is open and shows what its base shows. -/
theorem isOpen_newDemo {ε : Type} {name : Option String} {base : Storage}
    (isOpen : IsOpen site base)
    (made : (newDemo name base : Action ε Storage) site = (.ok storage, after)) :
    IsOpen after storage ∧ storage.view after = base.view site := by
  cases made
  have sameBase : ∀ cell ∈ base.cells,
      (site.addCell .empty).2.records? cell = site.records? cell :=
    fun cell inBase => Site.records?_addCell_of_lt (isOpen.allocated cell inBase)
  have own : (site.addCell .empty).1 ∉ base.cells := fun inBase =>
    Nat.lt_irrefl _ (isOpen.allocated _ inBase)
  refine ⟨.demo (isOpen.congr sameBase) (records?_addCell site .empty) own, ?_⟩
  show (base.view (site.addCell .empty).2).overlay
    (((site.addCell .empty).2.records? (site.addCell .empty).1).getD .empty) = _
  rw [records?_addCell, Option.getD_some, view_congr sameBase]
  rfl

end Storage

end StoreTopology

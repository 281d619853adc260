/-
**What a connection to an open storage answers, and what its commits do.**

* `Storage.OnDisk`: the data file of a storage holds what the storage shows;
* `Connection.get?_of_isReadable`, `Connection.root_of_isReadable`: a connection sees its pending
  writes over what is stored;
* `Connection.commit_eq_ok`, `Connection.commit_eq_error`: a commit stores all that is pending, or
  changes nothing.
-/

import StoreTopology.Database.Connection
import StoreTopology.Proofs.Storage.Durability
import StoreTopology.Proofs.Storage.View

namespace StoreTopology

open StoreTopology.Action

/-! ### Data files of storages -/

namespace Storage

variable {storage : Storage} {batch : Records} {site before after : Site}

/-- The data file that a storage writes to. A demo storage writes to none. -/
def dataFile? : Storage → Option String
  | file settings _ => some settings.path
  | mapping _ _ | memory _ _ _ | demo _ _ _ | faulty _ _ => none

/-- The data file of a storage, if it has one, holds what the storage shows. -/
def OnDisk (storage : Storage) (site : Site) : Prop :=
  ∀ path, storage.dataFile? = some path → ∃ contents, site.files.readFile path = .ok contents ∧
    HeldBy path contents (storage.view site)

/-- The cells of a storage and its data file are as they were. -/
structure Untouched (storage : Storage) (before after : Site) : Prop where
  records? : ∀ cell ∈ storage.cells, after.records? cell = before.records? cell
  readFile : ∀ path, storage.dataFile? = some path →
    after.files.readFile path = before.files.readFile path

theorem Untouched.of_same (cells : after.cells = before.cells)
    (files : after.files = before.files) : storage.Untouched before after where
  records? := fun _ _ => by rw [Site.records?, cells, Site.records?]
  readFile := fun _ _ => by rw [files]

theorem OnDisk.of_untouched (onDisk : storage.OnDisk before)
    (untouched : storage.Untouched before after) : storage.OnDisk after := by
  intro path hasFile
  rw [untouched.readFile path hasFile, view_congr untouched.records?]
  exact onDisk path hasFile

theorem Refuses.of_untouched {error : StoreError} (refuses : storage.Refuses after batch error)
    (untouched : storage.Untouched before after) (files : after.files = before.files) :
    storage.Refuses before batch error := by
  have sameView := view_congr untouched.records?
  cases refuses with
  | readOnly isReadOnly => exact .readOnly isReadOnly
  | quotaExceeded isFile hasQuota exceeded =>
    rw [sameView] at exceeded ⊢
    exact .quotaExceeded isFile hasQuota exceeded
  | notWritten isFile failed =>
    rw [sameView, files] at failed
    exact .notWritten isFile failed

/-- The data file of a storage that was opened holds what the storage shows. -/
theorem onDisk_openFile {settings : FileSettings}
    (opened : openFile settings site = (.ok storage, after)) : storage.OnDisk after := by
  obtain ⟨cell, records, rfl, held, source⟩ := openFile_eq_ok opened
  intro path hasFile
  cases hasFile
  rw [view, held, Option.getD_some]
  rcases source with ⟨sameFiles, read⟩ | ⟨rfl, replaced⟩
  · unfold readRecords at read
    split at read
    · cases read
    · next contents there => exact ⟨contents, sameFiles ▸ there, .inl read⟩
  · exact ⟨_, FileTree.readFile_of_replaceFile replaced, .inr rfl⟩

theorem onDisk_store_ok (stored : storage.store batch site = (.ok (), after)) :
    storage.OnDisk after := by
  cases storage with
  | file settings cell =>
    obtain ⟨records, _, held, replaced⟩ := storeInFile_eq_ok stored
    intro path hasFile
    cases hasFile
    rw [view, held, Option.getD_some]
    exact ⟨_, FileTree.readFile_of_replaceFile replaced, .inr rfl⟩
  | _ =>
    intro path hasFile
    cases hasFile

theorem IsOpen.onDisk_store_error (isOpen : storage.IsOpen site) {error : StoreError}
    (failed : storage.store batch site = (.error error, after)) (onDisk : storage.OnDisk site) :
    storage.OnDisk after := by
  have sameRecords := (isOpen.store_eq_error failed).2
  intro path hasFile
  obtain ⟨contents, there, held⟩ := onDisk path hasFile
  rw [view_congr fun cell _ => sameRecords cell]
  cases storage with
  | file settings cell =>
    cases hasFile
    exact ⟨contents, readFile_of_storeInFile_error failed there, held⟩
  | _ => cases hasFile

end Storage

/-! ### Connections -/

namespace Database

variable {database : Database} {connection : Connection} {site after : Site}

/-- A new connection has nothing pending, and opening it changes no storage. -/
theorem connect_eq_ok (connects : database.connect site = (.ok connection, after)) :
    connection = ⟨database, .empty⟩ ∧ after.cells = site.cells ∧ after.files = site.files := by
  unfold connect at connects
  rw [bind_of_ok site_apply] at connects
  split at connects
  · cases connects
  · dsimp only at connects
    rw [bind_of_ok (change_apply _)] at connects
    split at connects
    · cases connects
      exact ⟨rfl, rfl, rfl⟩
    · cases connects
      exact ⟨rfl, rfl, rfl⟩

end Database

namespace Connection

variable {connection flushed : Connection} {site after : Site}

/-- A connection to a readable storage answers with its pending write, else with what is stored. -/
theorem get?_of_isReadable (isReadable : connection.database.storage.IsReadable site)
    (key : String) : connection.get? site key = .ok ((connection.pending.get? key).or
      ((connection.database.storage.view site).get? key)) := by
  unfold get?
  cases connection.pending.get? key with
  | some record => rfl
  | none => exact isReadable.load?_eq key

theorem get?_eq (isOpen : connection.database.storage.IsOpen site) (key : String) :
    connection.get? site key = .ok ((connection.pending.get? key).or
      ((connection.database.storage.view site).get? key)) :=
  get?_of_isReadable isOpen.isReadable key

theorem get?_loadEach {storage : Storage} (isReadable : storage.IsReadable site)
    (keys : List String) :
    ∃ records, loadEach site storage keys = .ok records ∧
      ∀ key, records.get? key = if key ∈ keys then (storage.view site).get? key else none := by
  induction keys with
  | nil => exact ⟨.empty, rfl, fun key => rfl⟩
  | cons first rest ih =>
    obtain ⟨records, loaded, found⟩ := ih
    rw [loadEach, isReadable.load?_eq, loaded]
    cases shown : (storage.view site).get? first with
    | none =>
      refine ⟨records, rfl, fun key => ?_⟩
      rw [found]
      by_cases same : key = first
      · subst same
        simp [shown]
      · simp [same]
    | some record =>
      refine ⟨records.insert first record, rfl, fun key => ?_⟩
      rw [SortedMap.get?_insert, found]
      by_cases same : key = first
      · subst same
        simp [shown]
      · simp [same, Ne.symm same]

/-- A connection to a readable storage sees its pending writes over all that is stored. -/
theorem root_of_isReadable (isReadable : connection.database.storage.IsReadable site) :
    connection.root site =
      .ok ((connection.database.storage.view site).overlay connection.pending) := by
  obtain ⟨records, loaded, found⟩ :=
    get?_loadEach isReadable (connection.database.storage.view site).keys
  have all : records = connection.database.storage.view site := by
    apply SortedMap.ext_get?
    intro key
    rw [found]
    split
    · rfl
    · next absent =>
      rw [SortedMap.mem_keys, SortedMap.contains] at absent
      exact (Option.not_isSome_iff_eq_none.mp absent).symm
  unfold root
  rw [isReadable.keys_eq]
  show (loadEach site connection.database.storage _ >>= fun stored =>
    pure (stored.overlay connection.pending)) = _
  rw [loaded, all]
  rfl

theorem root_eq (isOpen : connection.database.storage.IsOpen site) :
    connection.root site =
      .ok ((connection.database.storage.view site).overlay connection.pending) :=
  root_of_isReadable isOpen.isReadable

/-- What a commit does: nothing if nothing is pending, else it stores all that is. -/
theorem commit_apply (connection : Connection) (site : Site) :
    (connection.pending = .empty ∧ connection.commit site = (.ok connection, site)) ∨
      ∃ text, connection.commit site =
        (connection.database.storage.store connection.pending >>= fun _ => pure connection.abort)
          (site.log .debug text) := by
  unfold commit
  cases isEmpty : connection.pending.isEmpty with
  | true => exact .inl ⟨SortedMap.isEmpty_iff.mp isEmpty, rfl⟩
  | false => exact .inr ⟨_, rfl⟩

/-- A commit that succeeds lays all that is pending over what is stored, and leaves nothing
pending. -/
theorem commit_eq_ok (isOpen : connection.database.storage.IsOpen site)
    (commits : connection.commit site = (.ok flushed, after)) :
    flushed = connection.abort ∧ connection.database.storage.IsOpen after ∧
      connection.database.storage.view after =
        (connection.database.storage.view site).overlay connection.pending ∧
      (connection.database.storage.OnDisk site → connection.database.storage.OnDisk after) := by
  rcases commit_apply connection site with ⟨nothing, done⟩ | ⟨text, stores⟩
  · rw [done] at commits
    cases commits
    refine ⟨?_, isOpen, ?_, id⟩
    · unfold abort
      rw [← nothing]
    · rw [nothing]
      rfl
  · rw [stores] at commits
    obtain ⟨_, between, stored, done⟩ := bind_eq_ok_iff.mp commits
    cases done
    have isOpenLogged : connection.database.storage.IsOpen (site.log .debug text) :=
      isOpen.congr fun _ _ => rfl
    obtain ⟨isOpenAfter, laid⟩ := isOpenLogged.store_eq_ok stored
    refine ⟨rfl, isOpenAfter, ?_, fun _ => Storage.onDisk_store_ok stored⟩
    rw [laid]
    exact congrArg (SortedMap.overlay · connection.pending) (Storage.view_congr fun _ _ => rfl)

/-- A commit that fails changes nothing that is stored. -/
theorem commit_eq_error (isOpen : connection.database.storage.IsOpen site) {error : StoreError}
    (fails : connection.commit site = (.error error, after)) :
    connection.database.storage.Refuses site connection.pending error ∧
      (∀ cell, after.records? cell = site.records? cell) ∧
      (connection.database.storage.OnDisk site → connection.database.storage.OnDisk after) := by
  rcases commit_apply connection site with ⟨_, done⟩ | ⟨text, stores⟩
  · rw [done] at fails
    cases fails
  · rw [stores] at fails
    rcases bind_eq_error_iff.mp fails with refused | ⟨_, _, _, done⟩
    · have isOpenLogged : connection.database.storage.IsOpen (site.log .debug text) :=
        isOpen.congr fun _ _ => rfl
      obtain ⟨refuses, sameRecords⟩ := isOpenLogged.store_eq_error refused
      refine ⟨refuses.of_untouched (.of_same rfl rfl) rfl, sameRecords,
        fun onDisk => isOpenLogged.onDisk_store_error refused ?_⟩
      exact onDisk.of_untouched (.of_same rfl rfl)
    · cases done

end Connection

end StoreTopology

/-
**All ways of reading a storage agree.**

Keys, single records and the snapshot of a connection are read along different ways, and a demo
storage asks its two layers in another order for each of them.

* `Storage.isReadable_of_keys`: a storage that lists its keys has records in all its cells;
* `Storage.stores_of_store`: a batch that is stored goes into the storage's own cell, even if several
  of its layers share it;
* `Storage.keys_error`: whether keys can be listed depends on nothing but which cells are closed;
* `Connection.root_of_commit`: a commit changes nothing of what its connection sees;
* `Storage.readsAgree`: so all ways of reading agree in every state.
-/

import StoreTopology.Proofs.Database.Committing
import StoreTopology.Proofs.Storage.Emptied

namespace StoreTopology

open StoreTopology.Action

namespace Storage

variable {storage : Storage} {site after : Site} {batch : Records} {keys : List String}

/-! ### Storages that list their keys -/

theorem held_of_cellRecords {name : String} {cell : CellId} {records : Records}
    (found : cellRecords site name cell = .ok records) : site.records? cell = some records := by
  unfold cellRecords at found
  split at found
  · next held => rw [held, Except.ok.inj found]
  · cases found

/-- A storage that lists its keys has records in all its cells. -/
theorem isReadable_of_keys (plain : storage.isPlain = true)
    (listed : storage.keys site = .ok keys) : storage.IsReadable site := by
  induction storage generalizing keys with
  | mapping name cell =>
    obtain ⟨records, found, _⟩ := map_eq_ok.mp listed
    exact .mapping (held_of_cellRecords found)
  | memory name readOnly cell =>
    obtain ⟨records, found, _⟩ := map_eq_ok.mp listed
    exact .memory (held_of_cellRecords found)
  | file settings cell =>
    obtain ⟨records, found, _⟩ := map_eq_ok.mp listed
    exact .file (held_of_cellRecords found)
  | demo name base changes ih =>
    obtain ⟨below, belowListed, listed⟩ := bind_eq_ok.mp listed
    obtain ⟨records, found, _⟩ := bind_eq_ok.mp listed
    exact .demo (ih plain belowListed) (held_of_cellRecords found)
  | faulty name failing => cases plain

/-! ### Batches that are stored -/

theorem stores_of_store (plain : storage.isPlain = true)
    (stored : storage.store batch site = (.ok (), after)) :
    storage.Stores batch site (.ok ()) after := by
  have inCell : ∀ {name cell}, storage.ownCell? = some cell →
      storeInCell name cell batch site = (.ok (), after) →
        storage.Stores batch site (.ok ()) after := by
    intro name cell isOwn stored
    cases held : site.records? cell with
    | none =>
      rw [storeInCell_apply, held] at stored
      cases stored
    | some records =>
      have stores : storage.Stores batch site (storeInCell name cell batch site).1 _ :=
        storeInCell_stores isOwn held
      rw [stored] at stores
      exact stores
  cases storage with
  | mapping name cell => exact inCell rfl stored
  | memory name readOnly cell =>
    cases readOnly with
    | true => cases stored
    | false => exact inCell rfl stored
  | file settings cell =>
    obtain ⟨records, held, _⟩ := storeInFile_eq_ok stored
    have stores : (file settings cell).Stores batch site
        (storeInFile settings cell batch site).1 _ := storeInFile_stores held
    have result : storeInFile settings cell batch site = (.ok (), after) := stored
    rw [result] at stores
    exact stores
  | demo name base changes => exact inCell rfl stored
  | faulty name failing => cases plain

/-! ### Keys that cannot be listed -/

theorem cellRecords_error {name : String} {cell : CellId} {error : StoreError}
    (filled : (after.records? cell).isSome = (site.records? cell).isSome)
    (failed : cellRecords site name cell = .error error) :
    cellRecords after name cell = .error error := by
  unfold cellRecords at failed ⊢
  split at failed
  · cases failed
  · next closed =>
    rw [closed, Option.isSome_none, Option.isSome_eq_false_iff, Option.isNone_iff_eq_none] at filled
    rw [filled]
    exact failed

/-- A storage fails to list its keys in the same way as long as the same cells are closed. -/
theorem keys_error (plain : storage.isPlain = true)
    (filled : ∀ cell, (after.records? cell).isSome = (site.records? cell).isSome)
    {error : StoreError} (failed : storage.keys site = .error error) :
    storage.keys after = .error error := by
  induction storage with
  | mapping name cell =>
    exact map_eq_error.mpr (cellRecords_error (filled cell) (map_eq_error.mp failed))
  | memory name readOnly cell =>
    exact map_eq_error.mpr (cellRecords_error (filled cell) (map_eq_error.mp failed))
  | file settings cell =>
    exact map_eq_error.mpr (cellRecords_error (filled cell) (map_eq_error.mp failed))
  | demo name base changes ih =>
    rw [Storage.keys]
    rcases bind_eq_error.mp failed with failedBelow | ⟨below, listed, failed⟩
    · exact bind_eq_error.mpr (.inl (ih plain failedBelow))
    · have plainBase : base.isPlain = true := plain
      have stillListed := ((isReadable_of_keys plainBase listed).of_isSome filled).keys_eq
      rcases bind_eq_error.mp failed with failedHere | ⟨_, _, failed⟩
      · exact bind_eq_error.mpr (.inr ⟨_, stillListed,
          bind_eq_error.mpr (.inl (cellRecords_error (filled changes) failedHere))⟩)
      · cases failed
  | faulty name failing => cases plain

end Storage

/-! ### Connections -/

namespace Connection

variable {connection flushed : Connection} {site after : Site}

theorem root_error {error : StoreError} (failed : connection.database.storage.keys site =
    .error error) : connection.root site = .error error := by
  unfold root
  rw [failed]
  rfl

/-- A connection that sees all its records sees them in a storage that lists its keys. -/
theorem exists_keys_of_root {records : Records} (seen : connection.root site = .ok records) :
    ∃ keys, connection.database.storage.keys site = .ok keys := by
  obtain ⟨keys, listed, _⟩ := bind_eq_ok.mp seen
  exact ⟨keys, listed⟩

/-- A commit that succeeds leaves all that its connection sees as it was, also if it sees nothing
because a base is closed. -/
theorem root_of_commit (plain : connection.database.storage.isPlain = true)
    (commits : connection.commit site = (.ok flushed, after)) :
    flushed.root after = connection.root site := by
  rcases commit_apply connection site with ⟨_, done⟩ | ⟨text, stores⟩
  · rw [done] at commits
    cases commits
    rfl
  · rw [stores] at commits
    obtain ⟨_, between, stored, done⟩ := bind_eq_ok_iff.mp commits
    cases done
    obtain ⟨cell, isOwn, laysLogged⟩ :=
      Storage.lays_of_stores (Storage.stores_of_store plain stored)
    have lays : Storage.Lays cell connection.pending site after :=
      ⟨laysLogged.laid, laysLogged.others⟩
    cases listed : connection.database.storage.keys site with
    | error error =>
      rw [root_error listed]
      exact root_error (Storage.keys_error plain lays.isSome_eq listed)
    | ok keys =>
      have isReadable := Storage.isReadable_of_keys plain listed
      have stillReadable : connection.abort.database.storage.IsReadable after :=
        isReadable.of_isSome lays.isSome_eq
      rw [root_of_isReadable isReadable, root_of_isReadable stillReadable]
      show Except.ok (connection.database.storage.view after) = _
      rw [lays.view_eq isOwn]

end Connection

/-! ### All ways of reading -/

/-- All ways of reading a storage, directly or by connections to it, give the same answers. -/
structure Storage.ReadsAgree (storage : Storage) (site : Site) : Prop where
  /-- Keys that are listed are in increasing order, each once. -/
  increasing : ∀ {keys : List String}, storage.keys site = .ok keys → keys.Pairwise (· < ·)
  /-- Then every key can be asked for, and just the listed ones have a record. -/
  load? : ∀ {keys : List String}, storage.keys site = .ok keys → ∀ key, ∃ found,
    storage.load? site key = .ok found ∧ (found.isSome = true ↔ key ∈ keys)
  /-- A connection that sees all records answers with them. -/
  get? : ∀ {connection : Connection} {records : Records},
    connection.database.storage = storage → connection.root site = .ok records →
      ∀ key, connection.get? site key = .ok (records.get? key)
  /-- They are under the keys of the storage and those that are pending. -/
  rootKeys : ∀ {connection : Connection} {records : Records},
    connection.database.storage = storage → connection.root site = .ok records →
      ∃ keys, storage.keys site = .ok keys ∧
        ∀ key, key ∈ records.keys ↔ key ∈ keys ∨ key ∈ connection.pending.keys
  /-- A commit that succeeds changes nothing of what its connection sees. -/
  commit : ∀ {connection flushed : Connection} {after : Site},
    connection.database.storage = storage → connection.commit site = (.ok flushed, after) →
      flushed.root after = connection.root site

/-- **All ways of reading a storage agree**, in whatever state it and its bases are. -/
theorem Storage.readsAgree {storage : Storage} (plain : storage.isPlain = true) (site : Site) :
    storage.ReadsAgree site := by
  refine ⟨fun listed => ?_, fun listed key => ?_, ?_, ?_, ?_⟩
  · have shown := (isReadable_of_keys plain listed).keys_eq
    rw [Except.ok.inj (listed.symm.trans shown)]
    exact SortedMap.keys_sorted _
  · have isReadable := isReadable_of_keys plain listed
    refine ⟨_, isReadable.load?_eq key, ?_⟩
    rw [Except.ok.inj (listed.symm.trans isReadable.keys_eq), SortedMap.mem_keys]
    rfl
  · rintro connection records rfl seen key
    obtain ⟨keys, listed⟩ := Connection.exists_keys_of_root seen
    have isReadable := isReadable_of_keys plain listed
    rw [Connection.root_of_isReadable isReadable] at seen
    rw [Connection.get?_of_isReadable isReadable, ← Except.ok.inj seen, SortedMap.get?_overlay]
  · rintro connection records rfl seen
    obtain ⟨keys, listed⟩ := Connection.exists_keys_of_root seen
    have isReadable := isReadable_of_keys plain listed
    rw [Connection.root_of_isReadable isReadable] at seen
    refine ⟨_, isReadable.keys_eq, fun key => ?_⟩
    rw [← Except.ok.inj seen, SortedMap.mem_keys, SortedMap.mem_keys, SortedMap.mem_keys,
      SortedMap.contains_overlay, Bool.or_eq_true, or_comm]
  · rintro connection flushed after rfl commits
    exact Connection.root_of_commit plain commits

/-- A demo storage over a base to which somebody else may write as well. -/
def overSharedBase : Storage := .demo "layer" (.mapping "base" ⟨0⟩) ⟨1⟩

/-- The base has a record under one key, and the changes have one under another. -/
def sharedBaseSite : Site where
  cells := ⟨[some (.ofList [("b", .ofJson .null)]), some (.ofList [("a", .ofJson .null)])]⟩

/-- A connection with a third key pending. -/
def overSharedBaseConnection : Connection :=
  ⟨⟨⟨0⟩, overSharedBase, {}, ⟨0⟩⟩, .ofList [("c", .ofJson .null)]⟩

/-- It sees all three records, and answers with what it sees. -/
theorem Storage.readsAgree_overSharedBase :
    overSharedBase.isPlain = true ∧ overSharedBase.keys sharedBaseSite = .ok ["a", "b"] ∧
      ∃ records, overSharedBaseConnection.root sharedBaseSite = .ok records ∧
        records.keys = ["a", "b", "c"] ∧
        ∀ key, overSharedBaseConnection.get? sharedBaseSite key = .ok (records.get? key) := by
  have agree : overSharedBase.ReadsAgree sharedBaseSite := Storage.readsAgree rfl sharedBaseSite
  have seen : overSharedBaseConnection.root sharedBaseSite = .ok (.ofList
      [("a", .ofJson .null), ("b", .ofJson .null), ("c", .ofJson .null)]) := rfl
  exact ⟨rfl, rfl, _, seen, rfl, agree.get? rfl seen⟩

end StoreTopology

/-
**Storages whose cells are empty.**

* `Storage.layers`: a storage, and those that are nested in it at any depth;
* `Storage.IsShut`: nothing can be read from a storage or stored in it, and closing it does nothing;
* `Storage.isShut_of_isEmptied`: so it is if all its cells are empty, however it is nested.
-/

import StoreTopology.Proofs.Storage.View

namespace StoreTopology

open StoreTopology.Action

/-! ### Cells that are emptied again -/

/-- An empty cell is not changed by being emptied. -/
theorem Site.setRecords_of_empty {site : Site} {cell : CellId}
    (empty : site.records? cell = none) : site.setRecords cell none = site := by
  have same : site.cells.set cell.number none = site.cells := by
    refine congrArg Table.mk (List.ext_getElem? fun number => ?_)
    have found := site.cells.get?_set cell.number number none
    unfold Table.get? at found
    refine found.trans ?_
    split
    · next isCell =>
      obtain ⟨rfl, inside⟩ := isCell
      have present := List.getElem?_eq_getElem inside
      rw [Site.records?, Table.get?, present] at empty
      rw [present]
      exact congrArg some (Eq.symm empty)
    · rfl
  unfold Site.setRecords
  rw [same]

namespace Storage

variable {storage layer : Storage} {site : Site}

/-- There is no stand-in among the storage and its bases. -/
def isPlain : Storage → Bool
  | mapping _ _ | memory _ _ _ | file _ _ => true
  | demo _ base _ => base.isPlain
  | faulty _ _ => false

/-- The storage, and those that are nested in it: the changes of a demo storage, and its base. -/
def layers : Storage → List Storage
  | mapping name cell => [mapping name cell]
  | memory name readOnly cell => [memory name readOnly cell]
  | file settings cell => [file settings cell]
  | demo name base changes =>
    demo name base changes :: mapping (changesName name) changes :: base.layers
  | faulty name failing => [faulty name failing]

theorem IsReadable.isPlain (isReadable : storage.IsReadable site) : storage.isPlain = true := by
  induction isReadable with
  | mapping _ => rfl
  | memory _ => rfl
  | file _ => rfl
  | demo _ _ ih => exact ih

/-- Closing a storage without a stand-in does not fail. -/
theorem close_eq_ok (plain : storage.isPlain = true) (site : Site) :
    (storage.close site).1 = .ok () := by
  induction storage generalizing site with
  | demo name base changes ih => exact ih plain _
  | faulty name failing => cases plain
  | mapping name cell => rfl
  | memory name readOnly cell => rfl
  | file settings cell => rfl

/-- All cells of the storage are empty. -/
def IsEmptied (storage : Storage) (site : Site) : Prop :=
  ∀ cell ∈ storage.cells, site.records? cell = none

/-- The layers of a storage have no cells but those of the storage. -/
theorem cells_of_mem_layers (isLayer : layer ∈ storage.layers) :
    ∀ cell ∈ layer.cells, cell ∈ storage.cells := by
  induction storage with
  | demo name base changes ih =>
    rw [layers, List.mem_cons, List.mem_cons] at isLayer
    rcases isLayer with rfl | rfl | inBase
    · exact fun _ own => own
    · exact List.forall_mem_singleton.mpr List.mem_cons_self
    · exact fun cell own => List.mem_cons_of_mem _ (ih inBase cell own)
  | _ =>
    cases List.mem_singleton.mp isLayer
    exact fun _ own => own

theorem isPlain_of_mem_layers (plain : storage.isPlain = true) (isLayer : layer ∈ storage.layers) :
    layer.isPlain = true := by
  induction storage with
  | demo name base changes ih =>
    rw [layers, List.mem_cons, List.mem_cons] at isLayer
    rcases isLayer with rfl | rfl | inBase
    · exact plain
    · rfl
    · exact ih plain inBase
  | _ =>
    cases List.mem_singleton.mp isLayer
    exact plain

/-! ### What can be done with them -/

/-- What a storage with empty cells answers to a batch. One that is read-only says so first. -/
def TurnsAway (storage : Storage) (error : StoreError) : Prop :=
  if storage.isReadOnly then error = .readOnly storage.name else ∃ name, error = .closed name

/-- Nothing can be read from the storage, or stored in it, and closing it does nothing. -/
structure IsShut (storage : Storage) (site : Site) : Prop where
  load? : ∀ key, ∃ name, storage.load? site key = .error (.closed name)
  keys : ∃ name, storage.keys site = .error (.closed name)
  store : ∀ batch, ∃ error, storage.store batch site = (.error error, site) ∧
    storage.TurnsAway error
  close : storage.close site = (.ok (), site)

theorem cellRecords_of_empty {cell : CellId} (empty : site.records? cell = none) (name : String) :
    cellRecords site name cell = .error (.closed name) := by
  unfold cellRecords
  rw [empty]

theorem keys_of_isEmptied (plain : storage.isPlain = true) (emptied : storage.IsEmptied site) :
    ∃ name, storage.keys site = .error (.closed name) := by
  induction storage with
  | mapping name cell =>
    exact ⟨_, by rw [keys, cellRecords_of_empty (emptied cell List.mem_cons_self)]; rfl⟩
  | memory name readOnly cell =>
    exact ⟨_, by rw [keys, cellRecords_of_empty (emptied cell List.mem_cons_self)]; rfl⟩
  | file settings cell =>
    exact ⟨_, by rw [keys, cellRecords_of_empty (emptied cell List.mem_cons_self)]; rfl⟩
  | demo name base changes ih =>
    obtain ⟨closed, failed⟩ :=
      ih plain fun cell inBase => emptied cell (List.mem_cons_of_mem _ inBase)
    exact ⟨closed, by rw [keys, failed]; rfl⟩
  | faulty name failing => cases plain

theorem load?_of_isEmptied (plain : storage.isPlain = true) (emptied : storage.IsEmptied site)
    (key : String) : ∃ name, storage.load? site key = .error (.closed name) := by
  cases storage with
  | mapping name cell =>
    exact ⟨_, by rw [load?, cellRecords_of_empty (emptied cell List.mem_cons_self)]; rfl⟩
  | memory name readOnly cell =>
    exact ⟨_, by rw [load?, cellRecords_of_empty (emptied cell List.mem_cons_self)]; rfl⟩
  | file settings cell =>
    exact ⟨_, by rw [load?, cellRecords_of_empty (emptied cell List.mem_cons_self)]; rfl⟩
  | demo name base changes =>
    exact ⟨_, by rw [load?, cellRecords_of_empty (emptied changes List.mem_cons_self)]; rfl⟩
  | faulty name failing => cases plain

theorem storeInCell_of_empty {cell : CellId} (empty : site.records? cell = none) (name : String)
    (batch : Records) : storeInCell name cell batch site = (.error (.closed name), site) := by
  rw [storeInCell_apply, empty]

theorem store_of_isEmptied (plain : storage.isPlain = true) (emptied : storage.IsEmptied site)
    (batch : Records) : ∃ error, storage.store batch site = (.error error, site) ∧
      storage.TurnsAway error := by
  cases storage with
  | mapping name cell =>
    exact ⟨_, storeInCell_of_empty (emptied cell List.mem_cons_self) name batch, name, rfl⟩
  | memory name readOnly cell =>
    cases readOnly with
    | true => exact ⟨_, rfl, rfl⟩
    | false =>
      exact ⟨_, storeInCell_of_empty (emptied cell List.mem_cons_self) name batch, name, rfl⟩
  | file settings cell =>
    have stores := storeInFile_apply settings cell batch site
    by_cases readOnly : settings.readOnly = true
    · rw [if_pos readOnly] at stores
      exact ⟨_, stores, (if_pos readOnly).mpr rfl⟩
    · rw [if_neg readOnly, emptied cell List.mem_cons_self] at stores
      exact ⟨_, stores, (if_neg readOnly).mpr ⟨_, rfl⟩⟩
  | demo name base changes =>
    exact ⟨_, storeInCell_of_empty (emptied changes List.mem_cons_self) _ batch, _, rfl⟩
  | faulty name failing => cases plain

theorem close_of_isEmptied (plain : storage.isPlain = true) (emptied : storage.IsEmptied site) :
    storage.close site = (.ok (), site) := by
  induction storage with
  | mapping name cell =>
    exact congrArg (Prod.mk _) (Site.setRecords_of_empty (emptied cell List.mem_cons_self))
  | memory name readOnly cell =>
    exact congrArg (Prod.mk _) (Site.setRecords_of_empty (emptied cell List.mem_cons_self))
  | file settings cell =>
    exact congrArg (Prod.mk _) (Site.setRecords_of_empty (emptied cell List.mem_cons_self))
  | demo name base changes ih =>
    rw [close, bind_of_ok (change_apply _),
      Site.setRecords_of_empty (emptied changes List.mem_cons_self)]
    exact ih plain fun cell inBase => emptied cell (List.mem_cons_of_mem _ inBase)
  | faulty name failing => cases plain

theorem isShut_of_isEmptied (plain : storage.isPlain = true) (emptied : storage.IsEmptied site) :
    storage.IsShut site where
  load? := load?_of_isEmptied plain emptied
  keys := keys_of_isEmptied plain emptied
  store := store_of_isEmptied plain emptied
  close := close_of_isEmptied plain emptied

end Storage

end StoreTopology

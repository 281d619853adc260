/-
**What is only read is never written.**

* `Storage.SparesFiles`: the settings of a data file that is there, and is not to be started anew, or
  is only to be read;
* `Storage.files_of_openFile`: opening such a data file changes no file, whatever it finds;
* `Storage.LiesOver`: the storage of a data file, and the demo storages over it at any height;
* `Storage.Uses`: such storages are asked and laid over each other, in any order and number;
* `Storage.openFile_writesNothing`: so nothing is ever written for a data file that is only read.
-/

import StoreTopology.Proofs.Storage.Copying

namespace StoreTopology.Storage

open StoreTopology.Action

variable {settings : FileSettings} {storage base : Storage} {site after : Site}

/-! ### Opening -/

/-- On these files, the settings ask for no new data file: it is only to be read, or it is there and
is not to be started anew. -/
def SparesFiles (settings : FileSettings) (files : FileTree) : Prop :=
  settings.readOnly = true ∨ settings.create = false ∧ files.pathExists settings.path = true

theorem startingRecords_of_spares (spares : SparesFiles settings site.files) :
    startingRecords settings (site.files.pathExists settings.path) = loadFile settings.path ∨
      startingRecords settings (site.files.pathExists settings.path) =
        throw (.readOnly settings.path) := by
  unfold startingRecords
  rcases spares with readOnly | ⟨kept, present⟩
  · rw [if_pos readOnly]
    split
    · exact .inl rfl
    · exact .inr rfl
  · rw [kept, present]
    split
    · exact .inl rfl
    · exact .inl rfl

/-- Opening a data file that asks for no new one changes no file, whether it succeeds or fails. -/
theorem files_of_openFile (spares : SparesFiles settings site.files) :
    (openFile settings site).2.files = site.files := by
  have started : (startingRecords settings (site.files.pathExists settings.path) site).2.files =
      site.files := by
    rcases startingRecords_of_spares spares with loads | refuses
    · rw [loads, loadFile_apply]
      rfl
    · rw [refuses]
      rfl
  rw [openFile_apply]
  split
  · next ran =>
    rw [ran] at started
    exact started
  · next ran =>
    rw [ran] at started
    exact started

/-! ### Using what is over a data file -/

/-- The storage of a data file, or a demo storage over such a storage. -/
inductive LiesOver (settings : FileSettings) : Storage → Prop
  | file (cell : CellId) : LiesOver settings (.file settings cell)
  | demo {base : Storage} (name : String) (changes : CellId) (lies : LiesOver settings base) :
      LiesOver settings (.demo name base changes)

/-- Storages at hand are used, one step after another: one of them answers a request, or a new demo
storage is laid over it and is at hand as well from then on. Describing a storage asks nothing of
the site, and is no step. -/
inductive Uses (opened : Storage) (begun : Site) : List Storage → Site → Prop
  | start : Uses opened begun [opened] begun
  | answered {held : List Storage} {storage : Storage} {site : Site}
      (before : Uses opened begun held site) (isHeld : storage ∈ held) (request : Request) :
      Uses opened begun held (storage.answer request site).2
  | layered {held : List Storage} {base demo : Storage} {site after : Site}
      (before : Uses opened begun held site) (isHeld : base ∈ held) (given : Option String)
      (layers : (newDemo given base : Action StoreError Storage) site = (.ok demo, after)) :
      Uses opened begun (demo :: held) after

/-- A data file that is only read refuses every batch for that. -/
theorem store_of_readOnly (readOnly : settings.readOnly = true) (cell : CellId) (batch : Records)
    (site : Site) : Storage.store batch (.file settings cell) site =
      (.error (.readOnly settings.path), site) := by
  rw [store, storeInFile_apply, if_pos readOnly]

/-- No request to what is over such a data file changes a file. -/
theorem LiesOver.files_answer (readOnly : settings.readOnly = true)
    (lies : storage.LiesOver settings) (request : Request) (site : Site) :
    (storage.answer request site).2.files = site.files := by
  cases lies with
  | file cell =>
    cases request with
    | store batch => rw [answer, store_of_readOnly readOnly]
    | load key => rfl
    | keys => rfl
    | close => rfl
  | demo name changes _ => exact (TakesAll.demo name _ changes).files_answer request site

/-- However a data file that is only read is used, all that is at hand is over it, and no file
changes. -/
theorem Uses.sparesFiles {opened : Storage} {begun : Site} {held : List Storage}
    (readOnly : settings.readOnly = true) (isOver : opened.LiesOver settings)
    (uses : Uses opened begun held site) :
    (∀ storage ∈ held, storage.LiesOver settings) ∧ site.files = begun.files := by
  induction uses with
  | start => exact ⟨List.forall_mem_singleton.mpr isOver, rfl⟩
  | answered _ isHeld request ih =>
    obtain ⟨areOver, same⟩ := ih
    exact ⟨areOver, ((areOver _ isHeld).files_answer readOnly request _).trans same⟩
  | layered _ isHeld given layers ih =>
    obtain ⟨areOver, same⟩ := ih
    cases layers
    exact ⟨List.forall_mem_cons.mpr ⟨.demo _ _ (areOver _ isHeld), areOver⟩, same⟩

/-- **A data file that is only read is never written, and neither is one that is opened without being
started anew.** Opening it changes no file, whether it succeeds or fails. If it is only read, the
same holds of all that is done with its storage and with demo storages over it, and its storage
refuses every batch. -/
theorem openFile_writesNothing (settings : FileSettings) (site : Site) :
    (SparesFiles settings site.files → (openFile settings site).2.files = site.files) ∧
      (settings.readOnly = true → ∀ opened begun, openFile settings site = (.ok opened, begun) →
        ∀ held after, Uses opened begun held after → after.files = site.files ∧
          ∀ batch, opened.store batch after = (.error (.readOnly settings.path), after)) := by
  refine ⟨files_of_openFile, fun readOnly opened begun opens held after uses => ?_⟩
  obtain ⟨cell, _, rfl, _⟩ := openFile_eq_ok opens
  have same : begun.files = site.files := by
    have spared : (openFile settings site).2.files = site.files := files_of_openFile (.inl readOnly)
    rw [opens] at spared
    exact spared
  obtain ⟨_, unchanged⟩ := uses.sparesFiles readOnly (.file cell)
  exact ⟨unchanged.trans same, fun batch => store_of_readOnly readOnly cell batch after⟩

/-- A site with a data file that holds a number in place of an object. -/
def corruptSite : Site :=
  { files := FileTree.empty.put ["data"] (.file "1".toUTF8) }

/-- A corrupt data file cannot be opened, and is left as it is. One that is only read is left as it
is by a batch for a demo storage over it and by one for itself, although its settings ask to start
it anew. -/
theorem openFile_writesNothing_frozen :
    (∃ error after, openFile { path := "data" } corruptSite = (.error error, after) ∧
      after.files = corruptSite.files) ∧
    ∃ opened begun demo layered after,
      openFile { path := "data", create := true, readOnly := true } FileRun.newFileSite =
          (.ok opened, begun) ∧
        (newDemo none opened : Action StoreError Storage) begun = (.ok demo, layered) ∧
        demo.store FileRun.firstBatch layered = (.ok (), after) ∧
        after.files = FileRun.newFileSite.files ∧
        opened.store FileRun.firstBatch after = (.error (.readOnly "data"), after) := by
  constructor
  · have fails : error? (openFile { path := "data" } corruptSite).1 =
        some (.corrupt "data" (.notObject (.number (.integer 1 (by decide))))) := by decide +kernel
    have present : corruptSite.files.pathExists "data" = true := by decide +kernel
    exact ⟨_, _, Prod.ext (error?_eq_some_iff.mp fails) rfl,
      (openFile_writesNothing { path := "data" } corruptSite).1 (.inr ⟨rfl, present⟩)⟩
  · have opens : openFile { path := "data", create := true, readOnly := true } FileRun.newFileSite =
      (.ok (.file { path := "data", create := true, readOnly := true } ⟨1⟩), _) := rfl
    obtain ⟨unchanged, refuses⟩ := (openFile_writesNothing _ _).2 rfl _ _ opens _ _
      (.answered (.layered .start List.mem_cons_self none rfl) List.mem_cons_self
        (.store FileRun.firstBatch))
    exact ⟨_, _, _, _, _, opens, rfl, rfl, unchanged, refuses FileRun.firstBatch⟩

end StoreTopology.Storage

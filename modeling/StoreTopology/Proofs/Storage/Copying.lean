/-
**A demo storage is a writable copy of its base.**

* `Request`, `Storage.answerAll`: what is asked of a storage, and what it answers in turn;
* `Request.replyAll`: the answers of records that are kept in memory until they are closed;
* `Storage.Holds.answer`, `Storage.Holds.answerAll`: a storage in memory that takes every batch
  gives these answers, up to its name;
* `Storage.demo_copies`: so a demo storage answers as a mapping storage with the records of its base
  would, and leaves its base and all files as they are.
-/

import StoreTopology.Proofs.Storage.Durability
import StoreTopology.Proofs.Storage.Emptied

namespace StoreTopology

open StoreTopology.Action

/-! ### Requests and replies -/

/-- What is asked of a storage. -/
inductive Request where
  | store (batch : Records)
  | load (key : String)
  | keys
  | close

/-- What a storage answers. -/
inductive Reply where
  /-- It stored a batch, or was closed. -/
  | done (outcome : Except StoreError Unit)
  | loaded (outcome : Except StoreError (Option Record))
  | listed (outcome : Except StoreError (List String))

/-- The error without the name of the storage that is closed. -/
def StoreError.unnamed : StoreError → StoreError
  | closed _ => closed ""
  | other => other

/-- The reply without the name of the storage that is closed. -/
def Reply.unnamed : Reply → Reply
  | done outcome => done (outcome.mapError StoreError.unnamed)
  | loaded outcome => loaded (outcome.mapError StoreError.unnamed)
  | listed outcome => listed (outcome.mapError StoreError.unnamed)

namespace Request

/-- The reply of records that are kept in memory, and what is kept after it. There are none after
they are closed. -/
def reply : Request → Option Records → Reply × Option Records
  | store batch, some records => (.done (.ok ()), some (records.overlay batch))
  | load key, some records => (.loaded (.ok (records.get? key)), some records)
  | keys, some records => (.listed (.ok records.keys), some records)
  | store _, none => (.done (.error (.closed "")), none)
  | load _, none => (.loaded (.error (.closed "")), none)
  | keys, none => (.listed (.error (.closed "")), none)
  | close, _ => (.done (.ok ()), none)

/-- The replies to several requests in turn. -/
def replyAll : List Request → Option Records → List Reply
  | [], _ => []
  | request :: rest, kept => (request.reply kept).1 :: replyAll rest (request.reply kept).2

end Request

namespace Storage

variable {storage base : Storage} {site : Site} {name : String} {cell changes : CellId}
  {batch records : Records} {kept : Option Records}

/-- The reply of a storage, and the site after it. -/
def answer (storage : Storage) (request : Request) (site : Site) : Reply × Site :=
  match request with
  | .store batch => (.done (storage.store batch site).1, (storage.store batch site).2)
  | .load key => (.loaded (storage.load? site key), site)
  | .keys => (.listed (storage.keys site), site)
  | .close => (.done (storage.close site).1, (storage.close site).2)

/-- The replies of a storage to several requests in turn, and the site after them. -/
def answerAll (storage : Storage) : List Request → Site → List Reply × Site
  | [], site => ([], site)
  | request :: rest, site =>
    let (reply, between) := storage.answer request site
    let (replies, after) := storage.answerAll rest between
    (reply :: replies, after)

/-! ### Cells -/

theorem IsOpen.exists_records (isOpen : storage.IsOpen site) :
    ∀ cell ∈ storage.cells, ∃ records, site.records? cell = some records := by
  induction isOpen with
  | mapping held => exact List.forall_mem_singleton.mpr ⟨_, held⟩
  | memory held => exact List.forall_mem_singleton.mpr ⟨_, held⟩
  | file held => exact List.forall_mem_singleton.mpr ⟨_, held⟩
  | demo _ held _ ih => exact List.forall_mem_cons.mpr ⟨⟨_, held⟩, ih⟩

/-! ### Storages in memory -/

/-- A storage in memory that takes every batch until it is closed. -/
inductive TakesAll : Storage → Prop
  | mapping (name : String) (cell : CellId) : TakesAll (.mapping name cell)
  | memory (name : String) (cell : CellId) : TakesAll (.memory name false cell)
  | demo (name : String) (base : Storage) (changes : CellId) : TakesAll (.demo name base changes)

/-- Such a storage stores in a cell of its own. -/
theorem TakesAll.store_eq (takesAll : storage.TakesAll) :
    ∃ name, ∃ cell ∈ storage.cells, ∀ batch, storage.store batch = storeInCell name cell batch := by
  cases takesAll with
  | mapping name cell => exact ⟨name, cell, List.mem_cons_self, fun _ => rfl⟩
  | memory name cell => exact ⟨name, cell, List.mem_cons_self, fun _ => rfl⟩
  | demo name base changes => exact ⟨changesName name, changes, List.mem_cons_self, fun _ => rfl⟩

/-- What a storage holds at a site: the records that it shows, or none once it was closed with its
bases. -/
inductive Holds (storage : Storage) (site : Site) : Option Records → Prop
  | shown (isOpen : storage.IsOpen site) : Holds storage site (some (storage.view site))
  | closed {other : Site} (wasOpen : storage.IsOpen other)
      (emptied : ∀ cell ∈ storage.cells, site.records? cell = none) : Holds storage site none

namespace Holds

/-- A closed storage, which holds nothing, can be closed again. -/
theorem close (holds : storage.Holds site kept) :
    (storage.close site).1 = .ok () ∧ storage.Holds (storage.close site).2 none := by
  have emptied : ∀ cell ∈ storage.cells, (storage.close site).2.records? cell = none :=
    fun cell own => by rw [records?_close, if_pos own]
  cases holds with
  | shown isOpen => exact ⟨close_eq_ok isOpen.isReadable.isPlain site, .closed isOpen emptied⟩
  | closed wasOpen _ =>
    exact ⟨close_eq_ok wasOpen.isReadable.isPlain site, .closed wasOpen emptied⟩

/-- A storage in memory replies as its records do, up to its name. -/
theorem answer (takesAll : storage.TakesAll) (holds : storage.Holds site kept)
    (request : Request) :
    (storage.answer request site).1.unnamed = (request.reply kept).1 ∧
      storage.Holds (storage.answer request site).2 (request.reply kept).2 := by
  obtain ⟨name, cell, own, stores⟩ := takesAll.store_eq
  cases holds with
  | shown isOpen =>
    cases request with
    | store batch =>
      obtain ⟨records, held⟩ := isOpen.exists_records cell own
      have stored : storage.store batch site =
          (.ok (), site.setRecords cell (some (records.overlay batch))) := by
        rw [stores, storeInCell_apply, held]
      obtain ⟨isOpenAfter, laid⟩ := isOpen.store_eq_ok stored
      rw [Storage.answer, stored]
      refine ⟨rfl, ?_⟩
      rw [Request.reply, ← laid]
      exact .shown isOpenAfter
    | load key =>
      rw [Storage.answer, isOpen.load?_eq]
      exact ⟨rfl, .shown isOpen⟩
    | keys =>
      rw [Storage.answer, isOpen.keys_eq]
      exact ⟨rfl, .shown isOpen⟩
    | close =>
      obtain ⟨done, closed⟩ := (Holds.shown isOpen).close
      rw [Storage.answer, done]
      exact ⟨rfl, closed⟩
  | closed wasOpen emptied =>
    have holds : storage.Holds site none := .closed wasOpen emptied
    cases request with
    | store batch =>
      rw [Storage.answer, stores, storeInCell_apply, emptied cell own]
      exact ⟨rfl, holds⟩
    | load key =>
      obtain ⟨name, failed⟩ := load?_of_isEmptied wasOpen.isReadable.isPlain emptied key
      rw [Storage.answer, failed]
      exact ⟨rfl, holds⟩
    | keys =>
      obtain ⟨name, failed⟩ := keys_of_isEmptied wasOpen.isReadable.isPlain emptied
      rw [Storage.answer, failed]
      exact ⟨rfl, holds⟩
    | close =>
      obtain ⟨done, closed⟩ := holds.close
      rw [Storage.answer, done]
      exact ⟨rfl, closed⟩

/-- So it does when it is asked several times. -/
theorem answerAll (takesAll : storage.TakesAll) (holds : storage.Holds site kept)
    (requests : List Request) :
    (storage.answerAll requests site).1.map Reply.unnamed = Request.replyAll requests kept := by
  induction requests generalizing site kept with
  | nil => rfl
  | cons request rest ih =>
    obtain ⟨same, holdsAfter⟩ := holds.answer takesAll request
    show (storage.answer request site).1.unnamed :: _ = _
    rw [same, Request.replyAll]
    exact congrArg _ (ih holdsAfter)

end Holds

/-! ### What a demo storage leaves alone -/

/-- Such a storage changes no file. -/
theorem TakesAll.files_answer (takesAll : storage.TakesAll) (request : Request) (site : Site) :
    (storage.answer request site).2.files = site.files := by
  cases request with
  | store batch =>
    obtain ⟨name, cell, _, stores⟩ := takesAll.store_eq
    rw [answer, stores, storeInCell_apply]
    cases site.records? cell with
    | none => rfl
    | some records => rfl
  | load key => rfl
  | keys => rfl
  | close => rw [answer, close_frame]

theorem TakesAll.files_answerAll (takesAll : storage.TakesAll) (requests : List Request)
    (site : Site) : (storage.answerAll requests site).2.files = site.files := by
  induction requests generalizing site with
  | nil => rfl
  | cons request rest ih => exact (ih _).trans (takesAll.files_answer request site)

/-- Until it is closed, a demo storage leaves the cells of its base alone. -/
theorem records?_answer_demo (own : changes ∉ base.cells) {request : Request}
    (notClose : request ≠ .close) : ∀ cell ∈ base.cells,
      ((demo name base changes).answer request site).2.records? cell = site.records? cell := by
  intro cell inBase
  cases request with
  | store batch =>
    show (storeInCell (changesName name) changes batch site).2.records? cell = _
    rw [storeInCell_apply]
    cases site.records? changes with
    | none => rfl
    | some records => exact Site.records?_setRecords_of_ne fun same => own (same ▸ inBase)
  | load key => rfl
  | keys => rfl
  | close => exact absurd rfl notClose

theorem records?_answerAll_demo (own : changes ∉ base.cells) {requests : List Request}
    (notClosed : Request.close ∉ requests) : ∀ cell ∈ base.cells,
      ((demo name base changes).answerAll requests site).2.records? cell = site.records? cell := by
  induction requests generalizing site with
  | nil => exact fun _ _ => rfl
  | cons request rest ih =>
    rw [List.mem_cons, not_or] at notClosed
    intro cell inBase
    exact (ih notClosed.2 cell inBase).trans
      (records?_answer_demo own (Ne.symm notClosed.1) cell inBase)

/-- An open storage answers the same as long as its cells have the same records. -/
theorem IsOpen.answers_congr {after : Site} (isOpen : storage.IsOpen site)
    (same : ∀ cell ∈ storage.cells, after.records? cell = site.records? cell) :
    storage.keys after = storage.keys site ∧
      ∀ key, storage.load? after key = storage.load? site key := by
  have isOpenAfter := isOpen.congr same
  refine ⟨?_, fun key => ?_⟩
  · rw [isOpenAfter.keys_eq, isOpen.keys_eq, view_congr same]
  · rw [isOpenAfter.load?_eq, isOpen.load?_eq, view_congr same]

/-! ### New demo storages -/

/-- The changes of a new demo storage have a cell of their own, and nothing else is new. -/
theorem newDemo_eq_ok {ε : Type} {given : Option String} {demo : Storage} {begun : Site}
    (isOpen : base.IsOpen site)
    (layers : (newDemo given base : Action ε Storage) site = (.ok demo, begun)) :
    ∃ name changes, demo = .demo name base changes ∧ changes ∉ base.cells ∧
      begun.files = site.files ∧
      ∀ cell ∈ base.cells, begun.records? cell = site.records? cell := by
  cases layers
  exact ⟨_, _, rfl, fun inBase => Nat.lt_irrefl _ (isOpen.allocated _ inBase), rfl,
    fun cell inBase => Site.records?_addCell_of_lt (isOpen.allocated cell inBase)⟩

/-- **A demo storage is a writable copy of its base, which it never touches.** It replies to all
requests as a mapping storage with the current records of its base does, but for the name of the
storage that is closed. No file changes, and until the demo storage is closed its base answers as
before, also if the base is read-only or has a quota. -/
theorem demo_copies {demo copy : Storage} {begun elsewhere started : Site} {given : Option String}
    {copyName : String} (isOpen : base.IsOpen site)
    (current : ∀ key, base.load? site key = .ok (records.get? key))
    (layers : (newDemo given base : Action StoreError Storage) site = (.ok demo, begun))
    (copies : (newMapping copyName records : Action StoreError Storage) elsewhere =
      (.ok copy, started)) (requests : List Request) :
    (demo.answerAll requests begun).1.map Reply.unnamed =
        (copy.answerAll requests started).1.map Reply.unnamed ∧
      (demo.answerAll requests begun).2.files = site.files ∧
      (Request.close ∉ requests →
        base.keys (demo.answerAll requests begun).2 = base.keys site ∧
        ∀ key, base.load? (demo.answerAll requests begun).2 key = base.load? site key) := by
  have shown : base.view site = records := SortedMap.ext_get? fun key =>
    Except.ok.inj ((isOpen.load?_eq key).symm.trans (current key))
  obtain ⟨isOpenDemo, sameView⟩ := isOpen_newDemo isOpen layers
  obtain ⟨isOpenCopy, copied⟩ := isOpen_newMapping copies
  have holdsDemo : demo.Holds begun (some records) := by
    rw [← shown, ← sameView]
    exact .shown isOpenDemo
  have holdsCopy : copy.Holds started (some records) := by
    rw [← copied]
    exact .shown isOpenCopy
  cases copies
  obtain ⟨name, changes, rfl, own, sameFiles, sameBase⟩ := newDemo_eq_ok isOpen layers
  refine ⟨?_, ?_, fun notClosed => isOpen.answers_congr fun cell inBase => ?_⟩
  · rw [holdsDemo.answerAll (.demo name base changes), holdsCopy.answerAll (.mapping _ _)]
  · rw [(TakesAll.demo name base changes).files_answerAll, sameFiles]
  · rw [records?_answerAll_demo own notClosed cell inBase, sameBase cell inBase]

/-- A site where a data file with a batch of records was opened again, for reading only. -/
def frozenSite : Site :=
  (openFile { path := "data", readOnly := true, quota := some 0 }
    (Storage.store FileRun.firstBatch (.file { path := "data" } ⟨0⟩) FileRun.newFileSite).2).2

def frozenFile : Storage := .file { path := "data", readOnly := true, quota := some 0 } ⟨1⟩

/-- A demo storage over a read-only data file takes a batch, which the data file does not get. -/
theorem demo_copies_frozen :
    ∃ demo begun, (newDemo none frozenFile : Action StoreError Storage) frozenSite =
        (.ok demo, begun) ∧
      (demo.answerAll [.store (.ofList [("more", .ofJson .null)]), .keys] begun).1.map
          Reply.unnamed = [.done (.ok ()), .listed (.ok ["list", "more"])] ∧
      frozenFile.keys (demo.answerAll [.store (.ofList [("more", .ofJson .null)]), .keys] begun).2 =
        frozenFile.keys frozenSite := by
  have held : frozenSite.records? ⟨1⟩ = some FileRun.firstBatch := rfl
  have isOpen : frozenFile.IsOpen frozenSite := .file held
  have current : ∀ key, frozenFile.load? frozenSite key = .ok (FileRun.firstBatch.get? key) :=
    fun key => isOpen.load?_eq key
  obtain ⟨same, _, untouched⟩ := demo_copies isOpen current rfl
    (rfl : (newMapping "copy" FileRun.firstBatch : Action StoreError Storage) {} = (.ok _, _))
    [.store (.ofList [("more", .ofJson .null)]), .keys]
  refine ⟨_, _, rfl, same.trans ?_, (untouched ?_).1⟩
  · rfl
  · simp

end Storage

end StoreTopology

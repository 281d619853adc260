/-
**Empty cells stay empty.**

* `Site.FillsNone`: no cell that was empty was filled again, and registries and databases are as they
  were, apart from new databases;
* `Site.admits_fillsNone`: so it is when storages are made;
* `Storage.fillsNone_store`, `Storage.fillsNone_close`, `Storage.fillsNone_cleanUp`: and when they are
  used.
-/

import StoreTopology.Proofs.Builder.Growing
import StoreTopology.Proofs.Storage.View

namespace StoreTopology

open StoreTopology.Action

/-- No cell that was empty was filled again, and none is gone. Registries and databases are as they
were, apart from new databases. -/
structure Site.FillsNone (before after : Site) : Prop extends Site.Grows before after where
  nextCell : before.cells.next ≤ after.cells.next
  staysEmpty : ∀ cell : CellId, cell.number < before.cells.next → before.records? cell = none →
    after.records? cell = none

namespace Site

variable {site before between after : Site} {cell : CellId} {held records : Records}

theorem FillsNone.of_same (cells : after.cells = before.cells) (grows : Site.Grows before after) :
    Site.FillsNone before after where
  toGrows := grows
  nextCell := Nat.le_of_eq (congrArg Table.next cells).symm
  staysEmpty := fun cell _ empty => by
    rw [records?, cells]
    exact empty

instance : Std.Refl Site.FillsNone := ⟨fun site => .of_same rfl (Std.Refl.refl site)⟩

theorem FillsNone.trans (first : Site.FillsNone before between)
    (second : Site.FillsNone between after) : Site.FillsNone before after where
  toGrows := first.toGrows.trans second.toGrows
  nextCell := Nat.le_trans first.nextCell second.nextCell
  staysEmpty := fun cell inside empty =>
    second.staysEmpty cell (Nat.lt_of_lt_of_le inside first.nextCell)
      (first.staysEmpty cell inside empty)

instance : Trans Site.FillsNone Site.FillsNone Site.FillsNone := ⟨FillsNone.trans⟩

theorem fillsNone_addCell (site : Site) (records : Records) :
    Site.FillsNone site (site.addCell records).2 where
  toGrows := .of_same rfl rfl
  nextCell := by
    show site.cells.next ≤ (site.cells.add (some records)).next
    rw [Table.next_add]
    exact Nat.le_succ _
  staysEmpty := fun cell inside empty => by
    rw [records?_addCell_of_lt inside]
    exact empty

/-- Making a storage or a database takes nothing away, and fills no empty cell. -/
theorem admits_fillsNone : Admits Site.FillsNone where
  log := fun _ _ _ => .of_same rfl (.of_same rfl rfl)
  files := fun _ _ => .of_same rfl (.of_same rfl rfl)
  cell := fillsNone_addCell
  database := fun site => .of_same rfl (grows_addDatabase site)

/-- A cell that has records may get others. -/
theorem fillsNone_setRecords (isHeld : site.records? cell = some held) :
    Site.FillsNone site (site.setRecords cell (some records)) where
  toGrows := .of_same rfl rfl
  nextCell := Nat.le_of_eq (Table.next_set _ _ _).symm
  staysEmpty := fun other _ empty => by
    rw [records?_setRecords_of_ne]
    · exact empty
    · rintro rfl
      rw [isHeld] at empty
      cases empty

/-- Any cell may be emptied. -/
theorem fillsNone_empty (site : Site) (cell : CellId) :
    Site.FillsNone site (site.setRecords cell none) where
  toGrows := .of_same rfl rfl
  nextCell := Nat.le_of_eq (Table.next_set _ _ _).symm
  staysEmpty := fun other _ empty => by
    rw [records?_setRecords_none, empty, ite_self]

end Site

namespace Storage

variable {ε : Type}

theorem fillsNone_newMemory (name : String) (readOnly : Bool) :
    Within Site.FillsNone (newMemory name readOnly : Action ε Storage) :=
  .bind (fun site => site.fillsNone_addCell .empty) fun _ => .pure _

theorem fillsNone_storeInCell (name : String) (cell : CellId) (batch : Records) :
    Within Site.FillsNone (storeInCell name cell batch) := by
  intro site
  rw [storeInCell_apply]
  cases isHeld : site.records? cell with
  | none => exact Std.Refl.refl site
  | some held => exact Site.fillsNone_setRecords isHeld

theorem fillsNone_storeInFile (settings : FileSettings) (cell : CellId) (batch : Records) :
    Within Site.FillsNone (storeInFile settings cell batch) := by
  intro site
  rw [storeInFile_apply]
  split
  · exact Std.Refl.refl site
  · cases isHeld : site.records? cell with
    | none => exact Std.Refl.refl site
    | some held =>
      dsimp only
      split
      · exact Std.Refl.refl site
      · split
        · exact .of_same rfl (.of_same rfl rfl)
        · next files _ =>
          have written : Site.FillsNone site
              { site.log .debug ("Writing " ++ settings.path ++ "...") with files } :=
            .of_same rfl (.of_same rfl rfl)
          exact written.trans (Site.fillsNone_setRecords isHeld)

/-- Storing changes records, files and the history only, and fills no empty cell. -/
theorem fillsNone_store (storage : Storage) (batch : Records) :
    Within Site.FillsNone (storage.store batch) := by
  cases storage with
  | mapping name cell => exact fillsNone_storeInCell name cell batch
  | memory name readOnly cell =>
    rw [store]
    split
    · exact fun site => Std.Refl.refl site
    · exact fillsNone_storeInCell name cell batch
  | file settings cell => exact fillsNone_storeInFile settings cell batch
  | demo name base changes => exact fillsNone_storeInCell _ changes batch
  | faulty name failing =>
    rw [store]
    split
    · exact fun site => Std.Refl.refl site
    · exact .pure ()

/-- Closing a storage fills no cell. -/
theorem fillsNone_close (storage : Storage) : Within Site.FillsNone storage.close := by
  have empties : ∀ cell, Within Site.FillsNone
      (change fun site => site.setRecords cell none : Action StoreError Unit) :=
    fun cell site => site.fillsNone_empty cell
  induction storage with
  | mapping name cell => exact empties cell
  | memory name readOnly cell => exact empties cell
  | file settings cell => exact empties cell
  | demo name base changes ih => exact .bind (empties changes) fun _ => ih
  | faulty name failing =>
    intro site
    rw [close_faulty]
    exact .of_same rfl (.of_same rfl rfl)

/-- Cleaning up changes files only. -/
theorem fillsNone_cleanUp (storage : Storage) : Within Site.FillsNone storage.cleanUp := by
  have onFiles : ∀ f, Within Site.FillsNone (onFiles f) := fun f =>
    within_onFiles Site.admits_fillsNone f
  induction storage with
  | file settings cell =>
    refine .bind (onFiles _) fun _ => .bind (onFiles _) fun _ => ?_
    split
    · exact onFiles _
    · exact .pure ()
  | demo name base changes ih => exact ih
  | mapping name cell => exact .pure ()
  | memory name readOnly cell => exact .pure ()
  | faulty name failing => exact .pure ()

end Storage

end StoreTopology

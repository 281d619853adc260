/-
**The cells of a storage.**

* `Site.records?_setRecords_of_ne`, `Site.records?_setRecords_none`: what a cell has after a change;
* `Storage.cells`: the cells that a storage keeps records in, those of its bases too;
* `Storage.closingEvents`: what is remembered of closing a storage, which is that the faulty one at
  its bottom, if there is one, was asked to close;
* `Storage.close_frame`: closing a storage changes cells, remembers this, and does nothing else;
* `Storage.records?_close`: it empties just its own cells, even if it fails.
-/

import StoreTopology.Proofs.Action
import StoreTopology.Storage.Operations

namespace StoreTopology

open StoreTopology.Action

namespace Site

variable {site : Site} {cell other : CellId} {records : Option Records}

/-- A cell that has records is there. -/
theorem allocated_of_records? {held : Records} (isHeld : site.records? cell = some held) :
    cell.number < site.cells.next := by
  refine Decidable.byContradiction fun beyond => ?_
  have missing : site.records? cell = none := by
    show (site.cells.values[cell.number]?).join = none
    rw [List.getElem?_eq_none (Nat.not_lt.mp beyond)]
    rfl
  rw [missing] at isHeld
  cases isHeld

theorem records?_setRecords_of_ne (differ : other ≠ cell) :
    (site.setRecords cell records).records? other = site.records? other := by
  show ((site.cells.set cell.number records).get? other.number).join = _
  rw [Table.get?_set, if_neg fun both => differ (congrArg CellId.mk both.1.symm)]
  rfl

/-- A cell that is set to no records has none; others keep theirs. -/
theorem records?_setRecords_none (site : Site) (cell other : CellId) :
    (site.setRecords cell none).records? other =
      if other = cell then none else site.records? other := by
  by_cases same : other = cell
  · subst same
    rw [if_pos rfl]
    show ((site.cells.set other.number none).get? other.number).join = none
    rw [Table.get?_set]
    split
    · rfl
    · next beyond =>
      have missing : site.cells.get? other.number = none :=
        List.getElem?_eq_none (Nat.not_lt.mp fun inside => beyond ⟨rfl, inside⟩)
      rw [missing]
      rfl
  · rw [if_neg same]
    exact records?_setRecords_of_ne same

theorem records?_addCell_of_lt {added : Records} (allocated : cell.number < site.cells.next) :
    (site.addCell added).2.records? cell = site.records? cell := by
  show ((site.cells.add (some added)).get? cell.number).join = _
  rw [Table.get?_add, if_neg (Nat.ne_of_lt allocated)]
  rfl

end Site

namespace Storage

/-- The cells that a storage keeps records in, from the outermost to the innermost. -/
def cells : Storage → List CellId
  | mapping _ cell => [cell]
  | memory _ _ cell => [cell]
  | file _ cell => [cell]
  | demo _ base changes => changes :: base.cells
  | faulty _ _ => []

/-- What is remembered of closing a storage: that the faulty one at its bottom, if there is one, was
asked to close. -/
def closingEvents : Storage → List Event
  | mapping _ _ => []
  | memory _ _ _ => []
  | file _ _ => []
  | demo _ base _ => base.closingEvents
  | faulty name _ => [.asked name]

/-- A faulty storage remembers that it was asked to close, whether it fails or not. -/
theorem close_faulty (name : String) (failing : List StorageOperation) (site : Site) :
    ((faulty name failing).close site).2 = site.remember (.asked name) := by
  rw [close, bind_of_ok (change_apply _)]
  split
  · rfl
  · rfl

/-- Closing a storage changes cells, remembers what there is to remember, and does nothing else. -/
theorem close_frame (storage : Storage) (site : Site) :
    (storage.close site).2 =
      { site with
        cells := (storage.close site).2.cells
        history := site.history ++ storage.closingEvents } := by
  have nothing : ∀ after : Site, after = { after with history := after.history ++ [] } :=
    fun after => by rw [List.append_nil]
  induction storage generalizing site with
  | mapping name cell => exact nothing _
  | memory name readOnly cell => exact nothing _
  | file settings cell => exact nothing _
  | demo name base changes ih =>
    show (base.close (site.setRecords changes none)).2 = _
    rw [ih]
    rfl
  | faulty name failing =>
    rw [close_faulty]
    rfl

/-- Closing a storage empties just its own cells, even if it fails. -/
theorem records?_close (storage : Storage) (site : Site) (cell : CellId) :
    (storage.close site).2.records? cell =
      if cell ∈ storage.cells then none else site.records? cell := by
  induction storage generalizing site with
  | mapping name own =>
    simp only [cells, List.mem_singleton]
    exact site.records?_setRecords_none own cell
  | memory name readOnly own =>
    simp only [cells, List.mem_singleton]
    exact site.records?_setRecords_none own cell
  | file settings own =>
    simp only [cells, List.mem_singleton]
    exact site.records?_setRecords_none own cell
  | demo name base changes ih =>
    show (base.close (site.setRecords changes none)).2.records? cell = _
    rw [ih, site.records?_setRecords_none, cells]
    by_cases inBase : cell ∈ base.cells
    · rw [if_pos inBase, if_pos (List.mem_cons_of_mem _ inBase)]
    · rw [if_neg inBase]
      simp only [List.mem_cons, inBase, or_false]
  | faulty name failing =>
    have notOwn : cell ∉ (faulty name failing).cells := List.not_mem_nil
    rw [if_neg notOwn, close_faulty]
    rfl

end Storage

end StoreTopology

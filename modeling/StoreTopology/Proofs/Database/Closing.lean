/-
**What closing databases does.**

* `Database.close_of_isOpen`: an open database leaves its registry, and then closes its storage;
* `Site.Closes`: some databases were closed between two sites, each once, and nothing else happened
  but that cells were emptied and registries left;
* `Site.Attempts`: databases that were open were closed in turn, each with an outcome of its own;
* `Site.Attempts.closes`: attempts close their databases, whatever fails;
* `RegistryId.attempts_closeEach`: closing databases in turn is one attempt for each that is open;
* `RegistryId.Owns`: a registry lists just the given databases, which belong to it and are open;
* `RegistryId.Owns.closeAll`: closing all of them is one attempt for each, and leaves the registry
  empty.
-/

import StoreTopology.Proofs.Database.Registering
import StoreTopology.Proofs.Storage.Cells

namespace StoreTopology

open StoreTopology.Action

/-- The database that an event closes, if it closes one. -/
def Event.closed? : Event → Option Database
  | .closing database => some database
  | .message _ _ => none
  | .build _ => none
  | .asked _ => none

/-- The databases that were closed so far, in order. -/
def Site.closings (site : Site) : List Database := site.history.filterMap Event.closed?

/-- An event that closes nothing adds nothing to what was closed. -/
theorem Site.closings_remember {event : Event} (nothing : event.closed? = none) (site : Site) :
    (site.remember event).closings = site.closings := by
  show List.filterMap Event.closed? (site.history ++ [event]) = _
  rw [List.filterMap_append, List.filterMap_cons_none nothing]
  exact List.append_nil _

/-- Closing a storage closes no database. -/
theorem Storage.closings_close (storage : Storage) (site : Site) :
    (storage.close site).2.closings = site.closings := by
  have nothing : storage.closingEvents.filterMap Event.closed? = [] := by
    induction storage with
    | mapping name cell => rfl
    | memory name readOnly cell => rfl
    | file settings cell => rfl
    | demo name base changes ih => exact ih
    | faulty name failing => rfl
  rw [close_frame]
  show List.filterMap Event.closed? (site.history ++ storage.closingEvents) = _
  rw [List.filterMap_append, nothing]
  exact List.append_nil _

theorem Site.state_setState {site : Site} {database id : DatabaseId} {state : DatabaseState}
    (added : database.number < site.databases.next) :
    (site.setState database state).state id = if id = database then state else site.state id := by
  show (((site.databases.set database.number state).get? id.number).getD {}) = _
  rw [Table.get?_set]
  by_cases same : id = database
  · rw [if_pos same, same, if_pos ⟨rfl, added⟩]
    rfl
  · rw [if_neg same, if_neg fun both => same (congrArg DatabaseId.mk both.1.symm)]
    rfl

/-! ### One database -/

namespace Database

variable {database : Database} {site : Site}

/-- The site on which a database that was open closes its storage. -/
def leave (database : Database) (site : Site) : Site :=
  database.leaveRegistry
    (((site.setState database.id { site.state database.id with closed := true }).remember
      (.closing database)).log .debug ("Closing database '" ++ database.name ++ "'..."))

/-- A closed database stays as it is. -/
theorem close_of_isClosed (isClosed : database.isClosed site = true) :
    database.close site = (.ok (), site) := by
  unfold close
  rw [bind_of_ok site_apply, if_pos isClosed]
  rfl

/-- An open database leaves its registry, and then closes its storage. -/
theorem close_of_isOpen (isOpen : database.isClosed site = false) :
    database.close site = database.storage.close (database.leave site) := by
  unfold close
  rw [bind_of_ok site_apply, if_neg (Bool.eq_false_iff.mp isOpen)]
  rfl

/-- A database that is listed under its name leaves its registry. -/
theorem leaveRegistry_of_listed {registered : Database}
    (listed : (site.registry database.registry).get? database.name = some registered)
    (same : registered.id = database.id) :
    database.leaveRegistry site =
      site.setRegistry database.registry
        ((site.registry database.registry).erase database.name) := by
  unfold leaveRegistry
  dsimp only
  rw [listed]
  exact if_pos same

/-- A database under whose name another is listed, or none, leaves the registries alone. -/
theorem leaveRegistry_of_other
    (other : ∀ registered, (site.registry database.registry).get? database.name =
      some registered → registered.id ≠ database.id) : database.leaveRegistry site = site := by
  unfold leaveRegistry
  dsimp only
  split
  · next registered listed => rw [if_neg (other registered listed)]
  · rfl

/-- Leaving a registry changes registries and nothing else. -/
theorem leaveRegistry_frame (database : Database) (site : Site) :
    database.leaveRegistry site =
      { site with registries := (database.leaveRegistry site).registries } := by
  unfold leaveRegistry
  dsimp only
  split
  · split
    · rfl
    · rfl
  · rfl

/-- Leaving closes the database, remembers it, and changes registries. -/
theorem leave_frame (database : Database) (site : Site) :
    database.leave site =
      { site.setState database.id { site.state database.id with closed := true } with
        history := site.history ++ [.closing database] ++
          [.message .debug ("Closing database '" ++ database.name ++ "'...")]
        registries := (database.leave site).registries } := by
  unfold leave
  rw [leaveRegistry_frame]
  rfl

/-- Leaving a registry erases the entry of the database. -/
theorem registry_leave_of_listed {registered : Database}
    (allocated : database.registry.number < site.registries.next)
    (listed : (site.registry database.registry).get? database.name = some registered)
    (same : registered.id = database.id) (id : RegistryId) :
    (database.leave site).registry id = if id = database.registry then
      (site.registry database.registry).erase database.name else site.registry id := by
  have left : database.leave site = _ := leaveRegistry_of_listed listed same
  rw [left]
  exact Site.registry_setRegistry_eq allocated id

/-- Leaving a registry that lists another database under the name changes no registry. -/
theorem registries_leave_of_other
    (other : ∀ registered, (site.registry database.registry).get? database.name =
      some registered → registered.id ≠ database.id) :
    (database.leave site).registries = site.registries := by
  have left : database.leave site = _ := leaveRegistry_of_other other
  rw [left]
  rfl

theorem next_leaveRegistry (database : Database) (site : Site) :
    (database.leaveRegistry site).registries.next = site.registries.next := by
  unfold leaveRegistry
  dsimp only
  split
  · split
    · exact Table.next_set _ _ _
    · rfl
  · rfl

/-- Closing a database changes no file. -/
theorem files_close (database : Database) (site : Site) :
    (database.close site).2.files = site.files := by
  cases state : database.isClosed site with
  | true => rw [close_of_isClosed state]
  | false =>
    rw [close_of_isOpen state, Storage.close_frame, leave_frame]
    rfl

end Database

/-! ### Several databases -/

/-- The databases were closed between two sites, each once and in this order, and no other was.
Their storages were closed with them. -/
structure Site.Closes (databases : List Database) (before after : Site) : Prop where
  files : after.files = before.files
  nextDatabase : after.databases.next = before.databases.next
  nextRegistry : after.registries.next = before.registries.next
  closings : after.closings = before.closings ++ databases
  closed : ∀ id, (after.state id).closed = true ↔
    (before.state id).closed = true ∨ id ∈ databases.map Database.id
  records? : ∀ cell, after.records? cell =
    if cell ∈ databases.flatMap fun database => database.storage.cells then none
    else before.records? cell

namespace Site.Closes

variable {first second : List Database} {database : Database} {before between after site : Site}

theorem nil (site : Site) : Site.Closes [] site site where
  files := rfl
  nextDatabase := rfl
  nextRegistry := rfl
  closings := (List.append_nil _).symm
  closed := fun id => by simp
  records? := fun cell => rfl

theorem append (closesFirst : Site.Closes first before between)
    (closesSecond : Site.Closes second between after) :
    Site.Closes (first ++ second) before after where
  files := closesSecond.files.trans closesFirst.files
  nextDatabase := closesSecond.nextDatabase.trans closesFirst.nextDatabase
  nextRegistry := closesSecond.nextRegistry.trans closesFirst.nextRegistry
  closings := by rw [closesSecond.closings, closesFirst.closings, List.append_assoc]
  closed := fun id => by
    rw [closesSecond.closed, closesFirst.closed, List.map_append, List.mem_append, or_assoc]
  records? := fun cell => by
    rw [closesSecond.records?, closesFirst.records?, List.flatMap_append]
    by_cases inSecond : cell ∈ second.flatMap fun database => database.storage.cells
    · rw [if_pos inSecond, if_pos (List.mem_append_right _ inSecond)]
    · rw [if_neg inSecond]
      simp only [List.mem_append, inSecond, or_false]

/-- Another database stays open. -/
theorem isClosed_of_ne (closes : Site.Closes first before after)
    (isOpen : database.isClosed before = false) (other : database.id ∉ first.map Database.id) :
    database.isClosed after = false := by
  refine Bool.eq_false_iff.mpr fun isClosed => ?_
  rcases (closes.closed database.id).mp isClosed with already | isFirst
  · exact Bool.eq_false_iff.mp isOpen already
  · exact other isFirst

/-- A database that is open is closed with its storage. -/
theorem of_close (isOpen : database.isClosed site = false)
    (added : database.id.number < site.databases.next) :
    Site.Closes [database] site (database.close site).2 := by
  rw [Database.close_of_isOpen isOpen]
  have frame := database.leave_frame site
  have kept : ∀ cell, (database.leave site).records? cell = site.records? cell := fun cell => by
    rw [frame]
    rfl
  refine ⟨?_, ?_, ?_, ?_, fun id => ?_, fun cell => ?_⟩
  · rw [Storage.close_frame, frame]
    rfl
  · rw [Storage.close_frame, frame]
    exact Table.next_set _ _ _
  · rw [Storage.close_frame]
    exact database.next_leaveRegistry _
  · rw [Storage.closings_close, frame]
    show List.filterMap Event.closed? (_ ++ [_] ++ [_]) = _
    rw [List.filterMap_append, List.filterMap_append]
    exact List.append_nil _
  · rw [Storage.close_frame, frame, List.map_singleton, List.mem_singleton]
    show ((site.setState database.id _).state id).closed = true ↔ _
    rw [Site.state_setState added]
    by_cases same : id = database.id
    · simp [same]
    · simp [same]
  · rw [Storage.records?_close, List.flatMap_singleton, kept]

end Site.Closes

namespace RegistryId

variable {id : RegistryId} {databases : List Database} {site : Site}

theorem closeEach_cons (database : Database) (rest : List Database) (site : Site) :
    (closeEach (database :: rest) site).2 = (closeEach rest (database.close site).2).2 := by
  unfold closeEach
  cases database.close site with
  | mk outcome after =>
    cases outcome with
    | ok _ => cases rest <;> rfl
    | error error => cases rest <;> rfl

theorem closeAll_apply (id : RegistryId) (site : Site) :
    id.closeAll site = closeEach (site.registry id).values site := by
  unfold closeAll
  rw [bind_of_ok site_apply]

/-- Closing all databases of a registry changes no file, whatever is registered there. -/
theorem files_closeAll (id : RegistryId) (site : Site) :
    (id.closeAll site).2.files = site.files := by
  rw [closeAll_apply]
  generalize (site.registry id).values = databases
  induction databases generalizing site with
  | nil => rfl
  | cons database rest ih => rw [closeEach_cons, ih, Database.files_close]

end RegistryId

/-! ### Attempts -/

/-- The one time that a database was closed with its storage, and what came of it. -/
structure Attempt where
  database : Database
  outcome : Except StoreError Unit

/-- Databases that were open were closed one after another between two sites: each of them left its
registry, and then its storage was closed with the given outcome. Nothing else happened. -/
inductive Site.Attempts : List Attempt → Site → Site → Prop
  | nil (site : Site) : Site.Attempts [] site site
  | cons {attempt : Attempt} {rest : List Attempt} {before between after : Site}
      (isOpen : attempt.database.isClosed before = false)
      (closes : attempt.database.storage.close (attempt.database.leave before) =
        (attempt.outcome, between))
      (later : Site.Attempts rest between after) : Site.Attempts (attempt :: rest) before after

/-- Attempts close their databases, whatever fails. -/
theorem Site.Attempts.closes {attempts : List Attempt} {before after : Site}
    (made : Site.Attempts attempts before after)
    (added : ∀ attempt ∈ attempts, attempt.database.id.number < before.databases.next) :
    Site.Closes (attempts.map Attempt.database) before after := by
  induction made with
  | nil site => exact .nil site
  | @cons attempt rest before between after isOpen closes later ih =>
    obtain ⟨isAdded, othersAdded⟩ := List.forall_mem_cons.mp added
    have closesFirst := Site.Closes.of_close isOpen isAdded
    rw [Database.close_of_isOpen isOpen, closes] at closesFirst
    exact closesFirst.append (ih fun other present =>
      closesFirst.nextDatabase ▸ othersAdded other present)

/-- The error of the first attempt that failed. -/
def Attempt.firstFailure? (attempts : List Attempt) : Option StoreError :=
  attempts.findSome? fun attempt => error? attempt.outcome

namespace RegistryId

variable {id : RegistryId} {databases : List Database} {site : Site}

/-- The first failure is kept. -/
theorem error?_closeEach_cons (database : Database) (rest : List Database) (site : Site) :
    error? (closeEach (database :: rest) site).1 =
      (error? (database.close site).1).or (error? (closeEach rest (database.close site).2).1) := by
  unfold closeEach
  cases database.close site with
  | mk outcome after =>
    cases outcome with
    | ok _ => cases rest <;> rfl
    | error error => cases rest <;> rfl

/-- Closing databases in turn is one attempt for each of them that is open, whatever fails. -/
theorem attempts_closeEach (idsDiffer : (databases.map Database.id).Nodup)
    (added : ∀ database ∈ databases, database.id.number < site.databases.next) :
    ∃ attempts, Site.Attempts attempts site (closeEach databases site).2 ∧
      attempts.map Attempt.database =
        databases.filter (fun database => !database.isClosed site) ∧
      error? (closeEach databases site).1 = Attempt.firstFailure? attempts := by
  induction databases generalizing site with
  | nil => exact ⟨[], .nil site, rfl, rfl⟩
  | cons database rest ih =>
    rw [List.map_cons, List.nodup_cons] at idsDiffer
    obtain ⟨isAdded, othersAdded⟩ := List.forall_mem_cons.mp added
    rw [closeEach_cons, error?_closeEach_cons]
    cases isClosed : database.isClosed site with
    | true =>
      rw [Database.close_of_isClosed isClosed, List.filter_cons_of_neg (by simp [isClosed])]
      exact ih idsDiffer.2 othersAdded
    | false =>
      have closes := Site.Closes.of_close isClosed isAdded
      have sameOthers : ∀ other ∈ rest,
          other.isClosed (database.close site).2 = other.isClosed site := by
        intro other later
        have differs : other.id ∉ [database].map Database.id := by
          rw [List.map_singleton, List.mem_singleton]
          exact fun same => idsDiffer.1 (same ▸ List.mem_map_of_mem later)
        exact Bool.eq_iff_iff.mpr ((closes.closed other.id).trans (or_iff_left differs))
      have stillAdded : ∀ other ∈ rest, other.id.number < (database.close site).2.databases.next :=
        fun other later => closes.nextDatabase ▸ othersAdded other later
      obtain ⟨attempts, made, those, reported⟩ := ih idsDiffer.2 stillAdded
      refine ⟨⟨database, (database.close site).1⟩ :: attempts, .cons isClosed ?_ made, ?_, ?_⟩
      · rw [← Database.close_of_isOpen isClosed]
      · rw [List.map_cons, those, List.filter_cons_of_pos (by simp [isClosed]),
          List.filter_congr fun other later => by rw [sameOthers other later]]
      · rw [reported]
        show _ = List.findSome? _ (_ :: attempts)
        rw [List.findSome?_cons]
        cases error? (database.close site).1 with
        | none => rfl
        | some error => rfl

/-! ### All databases of a registry -/

/-- A registry lists just the given databases, which belong to it and are open. -/
structure Owns (id : RegistryId) (site : Site) (databases : List Database) : Prop
    extends id.Lists site databases where
  idsDiffer : (databases.map Database.id).Nodup
  registry : ∀ database ∈ databases, database.registry = id
  added : ∀ database ∈ databases, database.id.number < site.databases.next
  isOpen : ∀ database ∈ databases, database.isClosed site = false

/-- Closing a database that is listed first leaves the entries after it. -/
theorem entries_close {database : Database} {rest : List (String × Database)}
    (allocated : id.number < site.registries.next) (registry : database.registry = id)
    (isOpen : database.isClosed site = false)
    (listed : (site.registry id).entries = (database.name, database) :: rest) :
    ((database.close site).2.registry id).entries = rest := by
  subst registry
  have first : (site.registry database.registry).get? database.name = some database :=
    SortedMap.mem_entries.mp (listed ▸ List.mem_cons_self)
  rw [Database.close_of_isOpen isOpen, Storage.close_frame]
  show ((database.leave site).registry database.registry).entries = rest
  rw [Database.registry_leave_of_listed allocated first rfl, if_pos rfl]
  exact SortedMap.entries_erase_head listed

namespace Owns

/-- A registry owns one database more after its registration. -/
theorem register {database : Database} {after : Site} (owns : id.Owns site databases)
    (other : database.id ∉ databases.map Database.id) (registry : database.registry = id)
    (added : database.id.number < site.databases.next)
    (isOpen : database.isClosed site = false)
    (registered : id.register database site = (.ok (), after)) :
    id.Owns after (databases ++ [database]) := by
  have lists := owns.toLists.register registered
  obtain ⟨_, rfl⟩ := register_eq_ok_iff.mp registered
  exact ⟨lists, Database.idsDiffer_concat owns.idsDiffer other,
    List.forall_mem_append.mpr ⟨owns.registry, List.forall_mem_singleton.mpr registry⟩,
    List.forall_mem_append.mpr ⟨owns.added, List.forall_mem_singleton.mpr added⟩,
    List.forall_mem_append.mpr ⟨owns.isOpen, List.forall_mem_singleton.mpr isOpen⟩⟩

/-- The databases may be given in any order. -/
theorem of_perm {order : List Database} (owns : id.Owns site databases)
    (same : order.Perm databases) : id.Owns site order where
  allocated := owns.allocated
  entries := owns.entries.trans (same.map _).symm
  idsDiffer := (same.map Database.id).nodup_iff.mpr owns.idsDiffer
  registry := fun database present => owns.registry database (same.mem_iff.mp present)
  added := fun database present => owns.added database (same.mem_iff.mp present)
  isOpen := fun database present => owns.isOpen database (same.mem_iff.mp present)

/-- The entries are the databases in the order of their names. -/
theorem entries_eq (owns : id.Owns site databases) :
    (site.registry id).entries =
      (site.registry id).values.map fun database => (database.name, database) := by
  unfold SortedMap.values
  rw [List.map_map]
  refine (List.map_id _).symm.trans (List.map_congr_left fun entry present => ?_)
  obtain ⟨database, _, rfl⟩ := List.mem_map.mp (owns.entries.mem_iff.mp present)
  rfl

theorem values_perm (owns : id.Owns site databases) : (site.registry id).values.Perm databases := by
  have values := owns.entries.map Prod.snd
  rw [List.map_map] at values
  refine values.trans (List.Perm.of_eq ?_)
  exact List.map_id _

/-- Closing databases in the order in which they are listed leaves none of them listed. -/
theorem entries_closeEach (owns : id.Owns site databases)
    (listed : (site.registry id).entries =
      databases.map fun database => (database.name, database)) :
    ((closeEach databases site).2.registry id).entries = [] := by
  induction databases generalizing site with
  | nil => exact listed
  | cons database rest ih =>
    -- Closing the first database takes it out, and the next one is listed first then.
    obtain ⟨⟨allocated, _⟩, idsDiffer, registry, added, isOpen⟩ := owns
    rw [List.map_cons, List.nodup_cons] at idsDiffer
    have left := entries_close allocated (registry database List.mem_cons_self)
      (isOpen database List.mem_cons_self) listed
    have closesFirst := Site.Closes.of_close (isOpen database List.mem_cons_self)
      (added database List.mem_cons_self)
    rw [closeEach_cons]
    refine ih ⟨⟨?_, left ▸ .refl _⟩, idsDiffer.2, fun other later => ?_, fun other later => ?_,
      fun other later => ?_⟩ left
    · rw [closesFirst.nextRegistry]
      exact allocated
    · exact registry other (List.mem_cons_of_mem _ later)
    · rw [closesFirst.nextDatabase]
      exact added other (List.mem_cons_of_mem _ later)
    · refine closesFirst.isClosed_of_ne (isOpen other (List.mem_cons_of_mem _ later)) ?_
      rw [List.map_singleton, List.mem_singleton]
      exact fun same => idsDiffer.1 (same ▸ List.mem_map_of_mem later)

/-- Closing all databases of a registry is one attempt for each of them, and leaves it empty. -/
theorem closeAll (owns : id.Owns site databases) :
    (id.closeAll site).2.registry id = .empty ∧
      ∃ attempts, Site.Attempts attempts site (id.closeAll site).2 ∧
        (attempts.map Attempt.database).Perm databases := by
  have inOrder := owns.of_perm owns.values_perm
  obtain ⟨attempts, made, those, _⟩ := attempts_closeEach inOrder.idsDiffer inOrder.added
  have allOpen : (site.registry id).values.filter (fun database => !database.isClosed site) =
      (site.registry id).values := by
    refine List.filter_eq_self.mpr fun database present => ?_
    rw [inOrder.isOpen database present]
    rfl
  rw [closeAll_apply]
  refine ⟨SortedMap.ext_get? fun name => ?_, attempts, made, ?_⟩
  · unfold SortedMap.get?
    rw [inOrder.entries_closeEach owns.entries_eq]
    rfl
  · rw [those, allOpen]
    exact owns.values_perm

end Owns

end RegistryId

end StoreTopology

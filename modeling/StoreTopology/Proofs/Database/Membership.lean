/-
**Which databases registries list as time goes on.**

* `Stage`, `Step`: the databases that were created so far, and what is done with them;
* `Stage.IsSound`: numbers tell databases apart, and registries list them under their own names;
* `Site.Clears`: databases were closed, and those that were open are out of their own registries;
* `Stage.IsSound.clears_close`, `Stage.IsSound.clears_closeEach`: what closing does to registries;
* `Database.connect_of_isOpen`, `Database.connect_of_isClosed`: what connecting does;
* `Site.SameMembers`: connections were counted, and nothing else concerns databases or registries;
* `Step.isSound`, `Step.staysClosed`: what one step keeps;
* `Run.preserves`: what each step keeps, a run keeps;
* `Run.isSound`, `Run.staysClosed`: runs lead to sound stages, and open no database again.
-/

import Mathlib.Data.List.Nodup
import Mathlib.Logic.Relation
import StoreTopology.Database.Connection
import StoreTopology.Proofs.Database.Closing

namespace StoreTopology

open StoreTopology.Action

/-! ### Registries and states on a site -/

namespace Site

variable {site after : Site} {id : RegistryId}

theorem not_listed (site : Site) (nothing : ∀ id, site.registry id = .empty) {id : RegistryId}
    {name : String} {database : Database} :
    ¬ (site.registry id).get? name = some database := by
  intro listed
  rw [nothing id] at listed
  cases listed

/-- A new registry lists nothing, as one that is not there. -/
theorem registry_addRegistry (site : Site) (id : RegistryId) :
    site.addRegistry.2.registry id = site.registry id :=
  site.registries.getD_get?_add .empty id.number

/-- A new database is open, as one that is not there. -/
theorem state_create {ε : Type} {storage : Storage} {settings : DatabaseSettings}
    {database : Database}
    (creates : (Database.create storage settings id : Action ε Database) site =
      (.ok database, after)) (other : DatabaseId) : after.state other = site.state other := by
  cases creates
  exact site.databases.getD_get?_add {} other.number

end Site

namespace Database

variable {database kept : Database} {site : Site} {id : RegistryId} {name : String}

/-- A database that leaves its registry takes its own entry along, and no other one. -/
theorem get?_leave (allocated : database.registry.number < site.registries.next)
    (identity : ∀ registered, (site.registry database.registry).get? database.name =
      some registered → registered.id = database.id → registered = database)
    (named : ∀ {id : RegistryId} {name : String},
      (site.registry id).get? name = some database → database.name = name) :
    ((database.leave site).registry id).get? name = some kept ↔
      (site.registry id).get? name = some kept ∧ ¬ (kept = database ∧ database.registry = id) := by
  by_cases listed : (site.registry database.registry).get? database.name = some database
  · rw [registry_leave_of_listed allocated listed rfl id]
    by_cases own : id = database.registry
    · subst own
      rw [if_pos rfl, SortedMap.get?_erase]
      by_cases same : database.name = name
      · subst same
        rw [if_pos rfl]
        show none = some kept ↔ (site.registry database.registry).get? database.name = _ ∧ _
        rw [listed]
        simp [eq_comm]
      · rw [if_neg same]
        refine (and_iff_left_of_imp ?_).symm
        rintro found ⟨rfl, _⟩
        exact same (named found)
    · rw [if_neg own]
      exact (and_iff_left fun both => own both.2.symm).symm
  · have other : ∀ registered, (site.registry database.registry).get? database.name =
        some registered → registered.id ≠ database.id := fun registered found same =>
      listed (identity registered found same ▸ found)
    rw [Site.registry, registries_leave_of_other other]
    refine (and_iff_left_of_imp ?_).symm
    rintro found ⟨rfl, rfl⟩
    exact listed (named found ▸ found)

end Database

/-! ### Stages -/

/-- The databases that were created so far, and the site that they are on. -/
structure Stage where
  databases : List Database
  site : Site

namespace Stage

/-- Numbers tell the databases apart, and registries list some of them, each under its own name. -/
structure IsSound (stage : Stage) : Prop where
  idsDiffer : (stage.databases.map Database.id).Nodup
  added : ∀ database ∈ stage.databases, database.id.number < stage.site.databases.next
  allocated : ∀ database ∈ stage.databases,
    database.registry.number < stage.site.registries.next
  listed : ∀ {id : RegistryId} {name : String} {database : Database},
    (stage.site.registry id).get? name = some database →
      database ∈ stage.databases ∧ database.name = name

end Stage

/-- Databases were closed between two sites. Those of them that were open left their own
registries, and no other entry changed. -/
structure Site.Clears (closing : List Database) (before after : Site) : Prop where
  get? : ∀ {id : RegistryId} {name : String} {kept : Database},
    (after.registry id).get? name = some kept ↔ (before.registry id).get? name = some kept ∧
      ¬ (kept ∈ closing ∧ kept.registry = id ∧ kept.isClosed before = false)
  closed : ∀ id, (after.state id).closed = true ↔
    (before.state id).closed = true ∨ id ∈ closing.map Database.id
  nextDatabase : after.databases.next = before.databases.next
  nextRegistry : after.registries.next = before.registries.next

namespace Site.Clears

variable {closing rest : List Database} {database : Database} {before between after : Site}

theorem nil (site : Site) : Site.Clears [] site site where
  get? := by simp
  closed := fun id => by simp
  nextDatabase := rfl
  nextRegistry := rfl

/-- Databases are closed one after another. -/
theorem cons (clearsFirst : Site.Clears [database] before between)
    (clearsRest : Site.Clears rest between after)
    (identity : ∀ {id : RegistryId} {name : String} {kept : Database},
      (before.registry id).get? name = some kept → kept.id = database.id → kept = database) :
    Site.Clears (database :: rest) before after where
  get? := by
    intro id name kept
    rw [clearsRest.get?, clearsFirst.get?, and_assoc]
    refine and_congr_right fun listed => ?_
    have isOpenBetween :
        kept.isClosed between = false ↔ kept.isClosed before = false ∧ kept ≠ database := by
      have isClosedBetween := clearsFirst.closed kept.id
      rw [List.map_singleton, List.mem_singleton] at isClosedBetween
      rw [Bool.eq_false_iff, Bool.eq_false_iff, ← not_or]
      exact not_congr (isClosedBetween.trans (or_congr_right ⟨identity listed, congrArg _⟩))
    rw [isOpenBetween, List.mem_singleton, List.mem_cons]
    by_cases isFirst : kept = database
    · simp [isFirst]
    · simp [isFirst]
  closed := fun id => by
    rw [clearsRest.closed, clearsFirst.closed, List.map_singleton, List.mem_singleton,
      List.map_cons, List.mem_cons, or_assoc]
  nextDatabase := clearsRest.nextDatabase.trans clearsFirst.nextDatabase
  nextRegistry := clearsRest.nextRegistry.trans clearsFirst.nextRegistry

end Site.Clears

namespace Stage.IsSound

variable {stage : Stage} {databases closing : List Database} {database : Database}
  {site after : Site}

theorem eq_of_id (sound : stage.IsSound) {first second : Database}
    (known : first ∈ stage.databases) (known' : second ∈ stage.databases)
    (same : first.id = second.id) : first = second :=
  List.inj_on_of_nodup_map sound.idsDiffer known known' same

/-- Stages stay sound when databases are closed. -/
theorem of_clears (sound : (⟨databases, site⟩ : Stage).IsSound)
    (clears : Site.Clears closing site after) : (⟨databases, after⟩ : Stage).IsSound where
  idsDiffer := sound.idsDiffer
  added := fun database known => by
    rw [clears.nextDatabase]
    exact sound.added database known
  allocated := fun database known => by
    rw [clears.nextRegistry]
    exact sound.allocated database known
  listed := fun listed => sound.listed (clears.get?.mp listed).1

/-- Closing a database takes it out of its own registry, and no other one out of any. -/
theorem clears_close (sound : stage.IsSound) (known : database ∈ stage.databases) :
    Site.Clears [database] stage.site (database.close stage.site).2 := by
  cases isClosed : database.isClosed stage.site with
  | true =>
    rw [Database.close_of_isClosed isClosed]
    refine ⟨fun {id name kept} => ?_, fun id => ?_, rfl, rfl⟩
    · refine (and_iff_left ?_).symm
      rintro ⟨isDatabase, _, isOpen⟩
      rw [List.mem_singleton.mp isDatabase, isClosed] at isOpen
      cases isOpen
    · rw [List.map_singleton, List.mem_singleton]
      exact (or_iff_left_of_imp fun same => same ▸ isClosed).symm
  | false =>
    have closes := Site.Closes.of_close isClosed (sound.added database known)
    refine ⟨fun {id name kept} => ?_, closes.closed, closes.nextDatabase, closes.nextRegistry⟩
    rw [Database.close_of_isOpen isClosed, Storage.close_frame]
    show ((database.leave stage.site).registry id).get? name = some kept ↔ _
    rw [Database.get?_leave (sound.allocated database known)
      (fun registered listed same => sound.eq_of_id (sound.listed listed).1 known same)
      fun listed => (sound.listed listed).2, List.mem_singleton]
    refine and_congr_right fun _ => not_congr ⟨?_, ?_⟩
    · rintro ⟨rfl, own⟩
      exact ⟨rfl, own, isClosed⟩
    · rintro ⟨rfl, own, _⟩
      exact ⟨rfl, own⟩

/-- Closing databases in turn takes those of them that are open out of their own registries. -/
theorem clears_closeEach (sound : (⟨databases, site⟩ : Stage).IsSound)
    (known : ∀ database ∈ closing, database ∈ databases) :
    Site.Clears closing site (RegistryId.closeEach closing site).2 := by
  induction closing generalizing site with
  | nil => exact .nil site
  | cons database rest ih =>
    have isKnown := known database List.mem_cons_self
    have clearsFirst := sound.clears_close isKnown
    rw [RegistryId.closeEach_cons]
    refine clearsFirst.cons (ih (sound.of_clears clearsFirst) fun other later => ?_) ?_
    · exact known other (List.mem_cons_of_mem _ later)
    · exact fun listed same => sound.eq_of_id (sound.listed listed).1 isKnown same

theorem mem_of_value (sound : stage.IsSound) {id : RegistryId}
    (isValue : database ∈ (stage.site.registry id).values) : database ∈ stage.databases := by
  obtain ⟨⟨name, _⟩, isEntry, rfl⟩ := List.mem_map.mp isValue
  exact (sound.listed (SortedMap.mem_entries.mp isEntry)).1

/-- Closing all databases of a registry takes those of them that are open out of their own
registries. -/
theorem clears_closeAll (sound : stage.IsSound) (id : RegistryId) :
    Site.Clears (stage.site.registry id).values stage.site (id.closeAll stage.site).2 := by
  rw [RegistryId.closeAll_apply]
  exact sound.clears_closeEach fun database isValue => sound.mem_of_value isValue

end Stage.IsSound

/-! ### Connecting -/

namespace Database

variable {database : Database} {site : Site}

/-- The site with one more connection to the database. -/
def countConnection (database : Database) (site : Site) : Site :=
  site.setState database.id
    { site.state database.id with openConnections := database.openConnections site + 1 }

/-- The warning that a database has more connections than its pool is for. -/
def poolWarning (database : Database) (count : Nat) : Event :=
  .message .warn ("database '" ++ database.name ++ "' has " ++ toString count ++
    " open connections, exceeding pool-size " ++ toString database.settings.poolSize.toNat)

/-- No connection to a closed database is opened, and nothing changes. -/
theorem connect_of_isClosed (isClosed : database.isClosed site = true) :
    database.connect site = (.error (.closed database.storage.name), site) := by
  unfold connect
  rw [bind_of_ok site_apply, if_pos isClosed]
  rfl

/-- A connection to an open database has nothing pending. It is counted, and there is a warning if the
pool is for less. -/
theorem connect_of_isOpen (isOpen : database.isClosed site = false) :
    database.connect site = (.ok ⟨database, .empty⟩,
      if database.settings.poolSize.toNat < database.openConnections site + 1 then
        (database.countConnection site).remember
          (database.poolWarning (database.openConnections site + 1))
      else database.countConnection site) := by
  unfold connect
  rw [bind_of_ok site_apply, if_neg (Bool.eq_false_iff.mp isOpen)]
  dsimp only
  rw [bind_of_ok (change_apply _)]
  split
  · rfl
  · rfl

/-- Only an open database is connected to. -/
theorem isOpen_of_connect {connection : Connection} {after : Site}
    (connects : database.connect site = (.ok connection, after)) :
    database.isClosed site = false := by
  refine Bool.eq_false_iff.mpr fun isClosed => ?_
  rw [connect_of_isClosed isClosed] at connects
  cases connects

/-- One connection more is counted, on this database and no other one. -/
theorem openConnections_connect (isOpen : database.isClosed site = false)
    (added : database.id.number < site.databases.next) (id : DatabaseId) :
    ((database.connect site).2.state id).openConnections =
      if id = database.id then database.openConnections site + 1
      else (site.state id).openConnections := by
  have counted : ((database.connect site).2.state id) =
      (database.countConnection site).state id := by
    rw [connect_of_isOpen isOpen]
    dsimp only
    split
    · rfl
    · rfl
  rw [counted, countConnection, Site.state_setState added]
  split
  · rfl
  · rfl

end Database

/-! ### Sites with the same members -/

/-- Between two sites no registry changed, and no database was created or closed. -/
structure Site.SameMembers (before after : Site) : Prop where
  registries : after.registries = before.registries
  nextDatabase : after.databases.next = before.databases.next
  closed : ∀ id, (after.state id).closed = (before.state id).closed

namespace Site.SameMembers

variable {site : Site}

/-- The number of connections of a database changes. -/
theorem setState {id : DatabaseId} {state : DatabaseState}
    (same : state.closed = (site.state id).closed) :
    Site.SameMembers site (site.setState id state) where
  registries := rfl
  nextDatabase := Table.next_set _ _ _
  closed := fun other => by
    rw [Site.state]
    show (((site.databases.set id.number state).get? other.number).getD {}).closed = _
    rw [Table.get?_set]
    split
    · next isDatabase =>
      rw [show other = id from congrArg DatabaseId.mk isDatabase.1.symm]
      exact same
    · rfl

theorem connect (database : Database) (site : Site) :
    Site.SameMembers site (database.connect site).2 := by
  cases isClosed : database.isClosed site with
  | true =>
    rw [Database.connect_of_isClosed isClosed]
    exact ⟨rfl, rfl, fun _ => rfl⟩
  | false =>
    rw [Database.connect_of_isOpen isClosed]
    have counted : Site.SameMembers site (database.countConnection site) := .setState rfl
    dsimp only
    split
    · exact ⟨counted.registries, counted.nextDatabase, counted.closed⟩
    · exact counted

theorem release (connection : Connection) (site : Site) :
    Site.SameMembers site (connection.release site) := .setState rfl

end Site.SameMembers

/-! ### Runs -/

/-- One step of what is done with databases and registries. Databases are registered where they may
be, and what else happens on the site concerns neither databases nor registries. -/
inductive Step (mayRegister : Site → RegistryId → Database → Prop) : Stage → Stage → Prop
  | addedRegistry (stage : Stage) :
      Step mayRegister stage ⟨stage.databases, stage.site.addRegistry.2⟩
  | created {stage : Stage} {storage : Storage} {settings : DatabaseSettings}
      {database : Database} {after : Site} (id : RegistryId)
      (allocated : id.number < stage.site.registries.next)
      (creates : (Database.create storage settings id : Action StoreError Database) stage.site =
        (.ok database, after)) :
      Step mayRegister stage ⟨database :: stage.databases, after⟩
  | registered {stage : Stage} {database : Database} (id : RegistryId)
      (allocated : id.number < stage.site.registries.next) (known : database ∈ stage.databases)
      (allowed : mayRegister stage.site id database) :
      Step mayRegister stage ⟨stage.databases, (id.register database stage.site).2⟩
  | closed {stage : Stage} {database : Database} (known : database ∈ stage.databases) :
      Step mayRegister stage ⟨stage.databases, (database.close stage.site).2⟩
  | closedAll (stage : Stage) (id : RegistryId) :
      Step mayRegister stage ⟨stage.databases, (id.closeAll stage.site).2⟩
  | connected {stage : Stage} {database : Database} (known : database ∈ stage.databases) :
      Step mayRegister stage ⟨stage.databases, (database.connect stage.site).2⟩
  | released {stage : Stage} {connection : Connection}
      (known : connection.database ∈ stage.databases) :
      Step mayRegister stage ⟨stage.databases, connection.release stage.site⟩
  | elsewhere (stage : Stage) (files : FileTree) (cells : Table (Option Records))
      (history : List Event) :
      Step mayRegister stage ⟨stage.databases, { stage.site with files, cells, history }⟩

/-- Any number of steps. -/
abbrev Run (mayRegister : Site → RegistryId → Database → Prop) : Stage → Stage → Prop :=
  Relation.ReflTransGen (Step mayRegister)

/-- A database gets its entry in a registry that has none under its name. -/
theorem RegistryId.get?_register {id other : RegistryId} {database kept : Database} {site : Site}
    {name : String} (allocated : id.number < site.registries.next) :
    ((id.register database site).2.registry other).get? name = some kept ↔
      (site.registry other).get? name = some kept ∨
        (site.registry id).contains database.name = false ∧ other = id ∧ name = database.name ∧
          kept = database := by
  rw [register_apply]
  cases isTaken : (site.registry id).contains database.name with
  | true => simp
  | false =>
    rw [if_neg Bool.false_ne_true]
    show (((site.setRegistry id _).registry other).get? name = some kept) ↔ _
    rw [Site.registry_setRegistry_eq allocated]
    by_cases own : other = id
    · subst own
      have free : (site.registry other).get? database.name = none :=
        Option.isNone_iff_eq_none.mp (Option.isSome_eq_false_iff.mp isTaken)
      rw [if_pos rfl, SortedMap.get?_insert]
      by_cases same : database.name = name
      · subst same
        simp [free, eq_comm]
      · simp [same, Ne.symm same]
    · simp [own]

theorem RegistryId.register_frame (id : RegistryId) (database : Database) (site : Site) :
    (id.register database site).2.databases = site.databases ∧
      (id.register database site).2.registries.next = site.registries.next := by
  rw [register_apply]
  split
  · exact ⟨rfl, rfl⟩
  · exact ⟨rfl, Table.next_set _ _ _⟩

namespace Stage.IsSound

variable {stage : Stage} {databases : List Database} {site after : Site}

/-- No database was created yet, and none is listed. -/
theorem start (nothing : ∀ id, site.registry id = .empty) : (⟨[], site⟩ : Stage).IsSound where
  idsDiffer := .nil
  added := List.forall_mem_nil _
  allocated := List.forall_mem_nil _
  listed := fun listed => (site.not_listed nothing listed).elim

theorem of_sameMembers (sound : (⟨databases, site⟩ : Stage).IsSound)
    (same : Site.SameMembers site after) : (⟨databases, after⟩ : Stage).IsSound where
  idsDiffer := sound.idsDiffer
  added := fun database known => by
    rw [same.nextDatabase]
    exact sound.added database known
  allocated := fun database known => by
    rw [same.registries]
    exact sound.allocated database known
  listed := fun {id name database} listed => by
    rw [Site.registry, same.registries] at listed
    exact sound.listed listed

theorem addRegistry (sound : stage.IsSound) :
    (⟨stage.databases, stage.site.addRegistry.2⟩ : Stage).IsSound where
  idsDiffer := sound.idsDiffer
  added := sound.added
  allocated := fun database known => by
    show database.registry.number < (stage.site.registries.add .empty).next
    rw [Table.next_add]
    exact Nat.lt_succ_of_lt (sound.allocated database known)
  listed := fun {id name database} listed => by
    rw [Site.registry_addRegistry] at listed
    exact sound.listed listed

/-- A new database has a number of its own, and no entry. -/
theorem create {storage : Storage} {settings : DatabaseSettings} {id : RegistryId}
    {database : Database} (sound : stage.IsSound)
    (allocated : id.number < stage.site.registries.next)
    (creates : (Database.create storage settings id : Action StoreError Database) stage.site =
      (.ok database, after)) : (⟨database :: stage.databases, after⟩ : Stage).IsSound := by
  cases creates
  refine ⟨?_, ?_, ?_, fun listed => ?_⟩
  · refine List.nodup_cons.mpr ⟨fun present => ?_, sound.idsDiffer⟩
    obtain ⟨other, known, same⟩ := List.mem_map.mp present
    have less := sound.added other known
    rw [same] at less
    exact Nat.lt_irrefl _ less
  · intro other known
    show other.id.number < (stage.site.databases.add {}).next
    rw [Table.next_add]
    rcases List.mem_cons.mp known with rfl | known
    · exact Nat.lt_succ_self _
    · exact Nat.lt_succ_of_lt (sound.added other known)
  · exact List.forall_mem_cons.mpr ⟨allocated, sound.allocated⟩
  · obtain ⟨known, named⟩ := sound.listed listed
    exact ⟨List.mem_cons_of_mem _ known, named⟩

theorem register {id : RegistryId} {database : Database} (sound : stage.IsSound)
    (allocated : id.number < stage.site.registries.next) (known : database ∈ stage.databases) :
    (⟨stage.databases, (id.register database stage.site).2⟩ : Stage).IsSound where
  idsDiffer := sound.idsDiffer
  added := fun other isOther => by
    rw [(id.register_frame database stage.site).1]
    exact sound.added other isOther
  allocated := fun other isOther => by
    rw [(id.register_frame database stage.site).2]
    exact sound.allocated other isOther
  listed := fun listed => by
    rcases (RegistryId.get?_register allocated).mp listed with already | ⟨_, _, rfl, rfl⟩
    · exact sound.listed already
    · exact ⟨known, rfl⟩

end Stage.IsSound

section Runs

variable {mayRegister : Site → RegistryId → Database → Prop} {stage later : Stage}

/-- Stages stay sound with each step. -/
theorem Step.isSound (step : Step mayRegister stage later) (sound : stage.IsSound) :
    later.IsSound := by
  cases step with
  | addedRegistry => exact sound.addRegistry
  | created _ allocated creates => exact sound.create allocated creates
  | registered _ allocated known _ => exact sound.register allocated known
  | closed known => exact sound.of_clears (sound.clears_close known)
  | closedAll id => exact sound.of_clears (sound.clears_closeAll id)
  | connected _ => exact sound.of_sameMembers (.connect _ _)
  | released _ => exact sound.of_sameMembers (.release _ _)
  | elsewhere files cells history => exact sound.of_sameMembers ⟨rfl, rfl, fun _ => rfl⟩

/-- No step opens a database again that is closed. -/
theorem Step.staysClosed (step : Step mayRegister stage later) (sound : stage.IsSound)
    {id : DatabaseId} (isClosed : (stage.site.state id).closed = true) :
    (later.site.state id).closed = true := by
  cases step with
  | addedRegistry => exact isClosed
  | created _ _ creates =>
    rw [Site.state_create creates]
    exact isClosed
  | registered _ _ _ _ =>
    rw [Site.state, (RegistryId.register_frame _ _ stage.site).1]
    exact isClosed
  | closed known => exact ((sound.clears_close known).closed id).mpr (.inl isClosed)
  | closedAll registry => exact ((sound.clears_closeAll registry).closed id).mpr (.inl isClosed)
  | connected _ => exact ((Site.SameMembers.connect _ _).closed id).trans isClosed
  | released _ => exact ((Site.SameMembers.release _ _).closed id).trans isClosed
  | elsewhere files cells history => exact isClosed

/-- What each step from a sound stage preserves, a run from a sound stage preserves. -/
theorem Run.preserves {P : Stage → Prop} (run : Run mayRegister stage later)
    (sound : stage.IsSound) (holds : P stage)
    (preserved : ∀ {before after : Stage}, Step mayRegister before after → before.IsSound →
      P before → P after) : later.IsSound ∧ P later := by
  induction run with
  | refl => exact ⟨sound, holds⟩
  | tail _ step ih => exact ⟨step.isSound ih.1, preserved step ih.1 ih.2⟩

/-- Where nothing is listed yet, every run leads to a sound stage. -/
theorem Run.isSound {first : Site} (nothing : ∀ id, first.registry id = .empty)
    (run : Run mayRegister ⟨[], first⟩ stage) : stage.IsSound :=
  (run.preserves (P := fun _ => True) (.start nothing) trivial fun _ _ _ => trivial).1

/-- A run from a sound stage opens no database again that is closed. -/
theorem Run.staysClosed (run : Run mayRegister stage later) (sound : stage.IsSound)
    {id : DatabaseId} (isClosed : (stage.site.state id).closed = true) :
    (later.site.state id).closed = true :=
  (run.preserves sound isClosed fun step isSound => step.staysClosed isSound).2

end Runs

end StoreTopology

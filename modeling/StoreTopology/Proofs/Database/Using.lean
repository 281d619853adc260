/-
**Storages, databases and connections in use.**

* `Scene`: the storages, databases and open connections that there are, and the site they are on;
* `Scene.Acts`, `Scene.Step`, `Scene.Run`: what is done with them;
* `Scene.IsSound`: databases count their connections, and the storages of closed ones are empty;
* `Scene.Step.isSound`, `Scene.Run.isSound`: so it is after every run that begins with files only;
* `Scene.Run.staysClosed`: a run forgets no database, and opens none again that is closed.
-/

import StoreTopology.Proofs.Database.Committing
import StoreTopology.Proofs.Database.Membership
import StoreTopology.Proofs.Storage.Emptied
import StoreTopology.Proofs.Storage.Filling

namespace StoreTopology

open StoreTopology.Action

/-! ### Scenes -/

/-- The storages and databases that were made so far, the connections that are open, and the site
that all of them are on. -/
structure Scene where
  storages : List Storage
  databases : List Database
  connections : List Connection
  site : Site

/-- What makes a storage. The base of a demo storage is one that there is already. -/
inductive Storage.Makes (known : List Storage) : Action StoreError Storage → Prop
  | mapping (name : String) (records : Records) : Makes known (newMapping name records)
  | memory (name : String) (readOnly : Bool) : Makes known (newMemory name readOnly)
  | file (settings : FileSettings) : Makes known (openFile settings)
  | demo (name : Option String) {base : Storage} (isKnown : base ∈ known) :
      Makes known (newDemo name base)
  | faulty (name : String) (failing : List StorageOperation) :
      Makes known (pure (.faulty name failing))

namespace Scene

/-- No storage was made yet, and there are files only. -/
def start (files : FileTree) : Scene := ⟨[], [], [], { files }⟩

/-- The databases, and the site that they are on. -/
def stage (scene : Scene) : Stage := ⟨scene.databases, scene.site⟩

/-- The connections that were opened on a database and not dropped yet. -/
def opened (scene : Scene) (database : Database) : Nat :=
  scene.connections.countP fun connection => connection.database = database

/-- What is done with the storages and databases that there are. Files and the history may be
changed by others at any time. -/
inductive Acts (scene : Scene) : Site → Prop
  | notMade {action : Action StoreError Storage} {error : StoreError} {after : Site}
      (makes : Storage.Makes scene.storages action)
      (fails : action scene.site = (.error error, after)) : Acts scene after
  | stored {storage : Storage} (batch : Records) (known : storage ∈ scene.storages) :
      Acts scene (storage.store batch scene.site).2
  | closedStorage {storage : Storage} (known : storage ∈ scene.storages) :
      Acts scene (storage.close scene.site).2
  | cleanedUp {storage : Storage} (known : storage ∈ scene.storages) :
      Acts scene (storage.cleanUp scene.site).2
  | addedRegistry : Acts scene scene.site.addRegistry.2
  | registered {database : Database} (id : RegistryId)
      (allocated : id.number < scene.site.registries.next) (known : database ∈ scene.databases) :
      Acts scene (id.register database scene.site).2
  | closed {database : Database} (known : database ∈ scene.databases) :
      Acts scene (database.close scene.site).2
  | closedAll (id : RegistryId) : Acts scene (id.closeAll scene.site).2
  | notConnected {database : Database} {error : StoreError} {after : Site}
      (known : database ∈ scene.databases)
      (fails : database.connect scene.site = (.error error, after)) : Acts scene after
  | refused {connection : Connection} {error : StoreError} {after : Site}
      (isOpen : connection ∈ scene.connections)
      (fails : connection.commit scene.site = (.error error, after)) : Acts scene after
  | elsewhere (files : FileTree) (history : List Event) :
      Acts scene { scene.site with files, history }

/-- One step of what is done. A commit that fails leaves its connection as it is. -/
inductive Step : Scene → Scene → Prop
  | acted {scene : Scene} {after : Site} (acts : scene.Acts after) :
      Step scene { scene with site := after }
  | made {scene : Scene} {action : Action StoreError Storage} {storage : Storage} {after : Site}
      (makes : Storage.Makes scene.storages action)
      (made : action scene.site = (.ok storage, after)) :
      Step scene { scene with storages := storage :: scene.storages, site := after }
  | created {scene : Scene} {storage : Storage} {settings : DatabaseSettings}
      {database : Database} {after : Site} (id : RegistryId) (known : storage ∈ scene.storages)
      (allocated : id.number < scene.site.registries.next)
      (creates : (Database.create storage settings id : Action StoreError Database) scene.site =
        (.ok database, after)) :
      Step scene { scene with databases := database :: scene.databases, site := after }
  | connected {scene : Scene} {database : Database} {connection : Connection} {after : Site}
      (known : database ∈ scene.databases)
      (connects : database.connect scene.site = (.ok connection, after)) :
      Step scene { scene with connections := connection :: scene.connections, site := after }
  | set {scene : Scene} {first rest : List Connection} {connection : Connection} (key : String)
      (record : Record) (isOpen : scene.connections = first ++ connection :: rest) :
      Step scene { scene with connections := first ++ connection.set key record :: rest }
  | committed {scene : Scene} {first rest : List Connection} {connection flushed : Connection}
      {after : Site} (isOpen : scene.connections = first ++ connection :: rest)
      (commits : connection.commit scene.site = (.ok flushed, after)) :
      Step scene { scene with connections := first ++ flushed :: rest, site := after }
  | aborted {scene : Scene} {first rest : List Connection} {connection : Connection}
      (isOpen : scene.connections = first ++ connection :: rest) :
      Step scene { scene with connections := first ++ connection.abort :: rest }
  | dropped {scene : Scene} {first rest : List Connection} {connection : Connection}
      (isOpen : scene.connections = first ++ connection :: rest) :
      Step scene { scene with
        connections := first ++ rest
        site := connection.release scene.site }

/-- Any number of steps. -/
abbrev Run : Scene → Scene → Prop := Relation.ReflTransGen Step

/-- Databases count their connections, and all cells of a closed one are empty. -/
structure IsSound (scene : Scene) : Prop where
  stage : scene.stage.IsSound
  /-- Connections are to databases that there are, and these are over storages that there are. -/
  known : ∀ connection ∈ scene.connections, connection.database ∈ scene.databases
  built : ∀ database ∈ scene.databases, database.storage ∈ scene.storages
  allocated : ∀ storage ∈ scene.storages, ∀ cell ∈ storage.cells,
    cell.number < scene.site.cells.next
  counted : ∀ database ∈ scene.databases,
    database.openConnections scene.site = scene.opened database
  emptied : ∀ database ∈ scene.databases, database.isClosed scene.site = true →
    database.storage.IsEmptied scene.site

end Scene

/-! ### New storages and databases -/

namespace Storage.Makes

variable {known : List Storage} {action : Action StoreError Storage} {storage : Storage}
  {site after : Site}

theorem fillsNone (makes : Storage.Makes known action) : Within Site.FillsNone action := by
  cases makes with
  | mapping name records => exact within_newMapping Site.admits_fillsNone name records
  | memory name readOnly => exact fillsNone_newMemory name readOnly
  | file settings => exact within_openFile Site.admits_fillsNone settings
  | demo name isKnown => exact within_newDemo Site.admits_fillsNone name _
  | faulty name failing => exact .pure _

/-- A storage that was made has cells that are there. -/
theorem allocated (makes : Storage.Makes known action)
    (before : ∀ base ∈ known, ∀ cell ∈ base.cells, cell.number < site.cells.next)
    (made : action site = (.ok storage, after)) :
    ∀ cell ∈ storage.cells, cell.number < after.cells.next := by
  have added : ∀ records, (site.addCell records).1.number <
      (site.addCell records).2.cells.next := by
    intro records
    show site.cells.next < (site.cells.add (some records)).next
    rw [Table.next_add]
    exact Nat.lt_succ_self _
  cases makes with
  | mapping name records =>
    cases made
    exact List.forall_mem_singleton.mpr (added records)
  | memory name readOnly =>
    cases made
    exact List.forall_mem_singleton.mpr (added .empty)
  | file settings =>
    obtain ⟨cell, records, rfl, held, _⟩ := openFile_eq_ok made
    exact List.forall_mem_singleton.mpr (Site.allocated_of_records? held)
  | @demo name base isKnown =>
    cases made
    refine List.forall_mem_cons.mpr ⟨added .empty, fun cell inBase => ?_⟩
    exact Nat.lt_trans (before base isKnown cell inBase) (added .empty)
  | faulty name failing =>
    cases made
    exact List.forall_mem_nil _

end Storage.Makes

/-! ### What is done with those that there are -/

/-- Databases have the connections that they had, those that were closed in between have empty cells
now, and no cell was filled again. -/
structure Site.Follows (databases : List Database) (before after : Site) : Prop where
  nextCell : before.cells.next ≤ after.cells.next
  staysEmpty : ∀ cell : CellId, cell.number < before.cells.next → before.records? cell = none →
    after.records? cell = none
  openConnections : ∀ id, (after.state id).openConnections = (before.state id).openConnections
  emptied : ∀ database ∈ databases, database.isClosed after = true →
    database.isClosed before = true ∨ database.storage.IsEmptied after

namespace Site.Follows

variable {databases : List Database} {before after site : Site}

theorem of_fillsNone (fillsNone : Site.FillsNone before after) :
    Site.Follows databases before after where
  nextCell := fillsNone.nextCell
  staysEmpty := fillsNone.staysEmpty
  openConnections := fun id => by rw [fillsNone.state]
  emptied := fun database _ isClosed => by
    rw [Database.isClosed, fillsNone.state] at isClosed
    exact .inl isClosed

/-- Only registries changed. -/
theorem of_same (cells : after.cells = before.cells) (states : after.databases = before.databases) :
    Site.Follows databases before after where
  nextCell := Nat.le_of_eq (congrArg Table.next cells).symm
  staysEmpty := fun cell _ empty => by
    rw [records?, cells]
    exact empty
  openConnections := fun id => by rw [state, states, state]
  emptied := fun database _ isClosed => by
    rw [Database.isClosed, state, states] at isClosed
    exact .inl isClosed

/-- A database that is closed keeps its connections, and empties the cells of its storage. -/
theorem close {database : Database} (sound : (⟨databases, site⟩ : Stage).IsSound)
    (known : database ∈ databases) : Site.Follows databases site (database.close site).2 := by
  cases isClosed : database.isClosed site with
  | true =>
    rw [Database.close_of_isClosed isClosed]
    exact .of_same rfl rfl
  | false =>
    have added := sound.added database known
    have closes := Site.Closes.of_close isClosed added
    have fillsNone := Storage.fillsNone_close database.storage (database.leave site)
    rw [← Database.close_of_isOpen isClosed] at fillsNone
    have frame := database.leave_frame site
    refine ⟨?_, fun cell _ empty => ?_, fun id => ?_, fun other isOther isClosedAfter => ?_⟩
    · have nextCell := fillsNone.nextCell
      rw [frame] at nextCell
      exact nextCell
    · rw [closes.records?, empty, ite_self]
    · rw [fillsNone.state, frame]
      show ((site.setState database.id _).state id).openConnections = _
      rw [Site.state_setState added]
      split
      · next same => rw [same]
      · rfl
    · rcases (closes.closed other.id).mp isClosedAfter with already | isDatabase
      · exact .inl already
      · have same : other = database :=
          sound.eq_of_id isOther known (List.mem_singleton.mp isDatabase)
        subst same
        refine .inr fun cell own => ?_
        rw [closes.records?, List.flatMap_singleton, if_pos own]

end Site.Follows

namespace Stage.IsSound

variable {databases : List Database} {site after : Site}

theorem of_grows (sound : (⟨databases, site⟩ : Stage).IsSound) (grows : Site.Grows site after) :
    (⟨databases, after⟩ : Stage).IsSound where
  idsDiffer := sound.idsDiffer
  added := fun database known => Nat.lt_of_lt_of_le (sound.added database known) grows.next
  allocated := fun database known => by
    rw [grows.registries]
    exact sound.allocated database known
  listed := fun {id name database} listed => by
    rw [Site.registry, grows.registries] at listed
    exact sound.listed listed

end Stage.IsSound

theorem RegistryId.cells_register (id : RegistryId) (database : Database) (site : Site) :
    (id.register database site).2.cells = site.cells := by
  rw [register_apply]
  split
  · rfl
  · rfl

theorem Connection.fillsNone_commit (connection : Connection) :
    Within Site.FillsNone connection.commit := by
  intro site
  rcases commit_apply connection site with ⟨_, done⟩ | ⟨text, stores⟩
  · rw [done]
    exact Std.Refl.refl site
  · rw [stores]
    have logged := Site.admits_fillsNone.log site .debug text
    refine logged.trans (Within.bind (Storage.fillsNone_store _ _) (fun _ => .pure _) _)

/-- A connection stays one to its database when it is flushed. -/
theorem Connection.database_of_commit {connection flushed : Connection} {site after : Site}
    (commits : connection.commit site = (.ok flushed, after)) :
    flushed.database = connection.database := by
  rcases commit_apply connection site with ⟨_, done⟩ | ⟨text, stores⟩
  · rw [done] at commits
    cases commits
    rfl
  · rw [stores] at commits
    obtain ⟨_, _, _, done⟩ := bind_eq_ok_iff.mp commits
    cases done
    rfl

namespace Scene

variable {scene later : Scene} {after : Site}

namespace IsSound

/-- What is done with the databases of a sound scene leaves it sound. -/
theorem of_follows (sound : scene.IsSound) (stage : (⟨scene.databases, after⟩ : Stage).IsSound)
    (follows : Site.Follows scene.databases scene.site after) :
    IsSound { scene with site := after } where
  stage := stage
  known := sound.known
  built := sound.built
  allocated := fun storage made cell own =>
    Nat.lt_of_lt_of_le (sound.allocated storage made cell own) follows.nextCell
  counted := fun database known =>
    (follows.openConnections database.id).trans (sound.counted database known)
  emptied := fun database known isClosed => by
    rcases follows.emptied database known isClosed with already | emptied
    · intro cell own
      exact follows.staysEmpty cell (sound.allocated _ (sound.built database known) cell own)
        (sound.emptied database known already cell own)
    · exact emptied

theorem of_fillsNone (sound : scene.IsSound) (fillsNone : Site.FillsNone scene.site after) :
    IsSound { scene with site := after } :=
  sound.of_follows (sound.stage.of_grows fillsNone.toGrows) (.of_fillsNone fillsNone)

theorem close (sound : scene.IsSound) {database : Database} (known : database ∈ scene.databases) :
    IsSound { scene with site := (database.close scene.site).2 } :=
  sound.of_follows (sound.stage.of_clears (sound.stage.clears_close known))
    (.close sound.stage known)

theorem closeEach (sound : scene.IsSound) {closing : List Database}
    (known : ∀ database ∈ closing, database ∈ scene.databases) :
    IsSound { scene with site := (RegistryId.closeEach closing scene.site).2 } := by
  induction closing generalizing scene with
  | nil => exact sound
  | cons database rest ih =>
    obtain ⟨isKnown, others⟩ := List.forall_mem_cons.mp known
    rw [RegistryId.closeEach_cons]
    exact ih (sound.close isKnown) others

end IsSound

/-- Scenes stay sound whatever is done with the storages and databases that there are. -/
theorem Acts.isSound (acts : scene.Acts after) (sound : scene.IsSound) :
    IsSound { scene with site := after } := by
  cases acts with
  | notMade makes fails => exact sound.of_fillsNone (makes.fillsNone.of_error fails)
  | stored batch _ => exact sound.of_fillsNone (Storage.fillsNone_store _ batch scene.site)
  | closedStorage _ => exact sound.of_fillsNone (Storage.fillsNone_close _ scene.site)
  | cleanedUp _ => exact sound.of_fillsNone (Storage.fillsNone_cleanUp _ scene.site)
  | addedRegistry => exact sound.of_follows sound.stage.addRegistry (.of_same rfl rfl)
  | @registered database id allocated known =>
    exact sound.of_follows (sound.stage.register allocated known)
      (.of_same (id.cells_register database scene.site)
        (id.register_frame database scene.site).1)
  | closed known => exact sound.close known
  | closedAll id =>
    rw [RegistryId.closeAll_apply]
    exact sound.closeEach fun database isValue => sound.stage.mem_of_value isValue
  | @notConnected database _ _ known fails =>
    cases isClosed : database.isClosed scene.site with
    | true =>
      rw [Database.connect_of_isClosed isClosed] at fails
      cases fails
      exact sound
    | false =>
      rw [Database.connect_of_isOpen isClosed] at fails
      cases fails
  | refused _ fails => exact sound.of_fillsNone ((Connection.fillsNone_commit _).of_error fails)
  | elsewhere files history => exact sound.of_fillsNone (.of_same rfl (.of_same rfl rfl))

/-! ### Connections -/

namespace IsSound

/-- Connections may be opened, changed and dropped as long as they are counted. -/
theorem of_counted (sound : scene.IsSound) {connections : List Connection}
    (same : Site.SameMembers scene.site after) (cells : after.cells = scene.site.cells)
    (known : ∀ connection ∈ connections, connection.database ∈ scene.databases)
    (counted : ∀ database ∈ scene.databases, database.openConnections after =
      connections.countP fun connection => connection.database = database) :
    IsSound { scene with connections, site := after } where
  stage := sound.stage.of_sameMembers same
  known := known
  built := sound.built
  allocated := fun storage made cell own => by
    show cell.number < after.cells.next
    rw [cells]
    exact sound.allocated storage made cell own
  counted := counted
  emptied := fun database isKnown isClosed cell own => by
    show after.records? cell = none
    rw [Site.records?, cells]
    exact sound.emptied database isKnown ((same.closed database.id).symm.trans isClosed) cell own

/-- One connection goes on as another one to the same database. -/
theorem replace (sound : scene.IsSound) {first rest : List Connection}
    {connection other : Connection} (isOpen : scene.connections = first ++ connection :: rest)
    (sameDatabase : other.database = connection.database) :
    IsSound { scene with connections := first ++ other :: rest } := by
  refine sound.of_counted ⟨rfl, rfl, fun _ => rfl⟩ rfl ?_ fun database known => ?_
  · have known := sound.known
    rw [isOpen, List.forall_mem_append, List.forall_mem_cons] at known
    rw [List.forall_mem_append, List.forall_mem_cons, sameDatabase]
    exact known
  · rw [sound.counted database known, opened, isOpen, List.countP_append, List.countP_cons,
      List.countP_append, List.countP_cons, sameDatabase]

/-- Other databases have other numbers. -/
theorem id_ne (sound : scene.IsSound) {database other : Database}
    (known : database ∈ scene.databases) (isOther : other ∈ scene.databases)
    (differ : other ≠ database) : other.id ≠ database.id :=
  fun same => differ (sound.stage.eq_of_id isOther known same)

theorem connect (sound : scene.IsSound) {database : Database} {connection : Connection}
    (known : database ∈ scene.databases)
    (connects : database.connect scene.site = (.ok connection, after)) :
    IsSound { scene with connections := connection :: scene.connections, site := after } := by
  obtain ⟨rfl, cells, _⟩ := Database.connect_eq_ok connects
  have isOpen := Database.isOpen_of_connect connects
  have same := Site.SameMembers.connect database scene.site
  have counts := Database.openConnections_connect isOpen (sound.stage.added database known)
  rw [connects] at same counts
  refine sound.of_counted same cells (List.forall_mem_cons.mpr ⟨known, sound.known⟩) ?_
  intro other isOther
  have before := sound.counted other isOther
  rw [List.countP_cons]
  by_cases isDatabase : other = database
  · subst isDatabase
    rw [Database.openConnections, counts, if_pos rfl, before, if_pos (decide_eq_true rfl)]
    rfl
  · rw [Database.openConnections, counts, if_neg (sound.id_ne known isOther isDatabase),
      if_neg fun same => isDatabase (of_decide_eq_true same).symm]
    exact before

theorem drop (sound : scene.IsSound) {first rest : List Connection} {connection : Connection}
    (isOpen : scene.connections = first ++ connection :: rest) :
    IsSound { scene with
      connections := first ++ rest
      site := connection.release scene.site } := by
  have allKnown := sound.known
  rw [isOpen, List.forall_mem_append, List.forall_mem_cons] at allKnown
  obtain ⟨knownFirst, known, knownRest⟩ := allKnown
  have counts : ∀ id, ((connection.release scene.site).state id).openConnections = _ :=
    fun id => congrArg DatabaseState.openConnections
      (Site.state_setState (sound.stage.added connection.database known))
  refine sound.of_counted (.release connection scene.site) rfl
    (List.forall_mem_append.mpr ⟨knownFirst, knownRest⟩) fun other isOther => ?_
  have before := sound.counted other isOther
  rw [opened, isOpen, List.countP_append, List.countP_cons] at before
  rw [List.countP_append, Database.openConnections, counts]
  by_cases isDatabase : other = connection.database
  · subst isDatabase
    rw [if_pos (decide_eq_true rfl)] at before
    rw [if_pos rfl]
    show Database.openConnections scene.site _ - 1 = _
    rw [before]
    omega
  · rw [if_neg fun same => isDatabase (of_decide_eq_true same).symm] at before
    rw [if_neg (sound.id_ne known isOther isDatabase)]
    exact before

theorem create (sound : scene.IsSound) {storage : Storage} {settings : DatabaseSettings}
    {id : RegistryId} {database : Database} (known : storage ∈ scene.storages)
    (allocated : id.number < scene.site.registries.next)
    (creates : (Database.create storage settings id : Action StoreError Database) scene.site =
      (.ok database, after)) :
    IsSound { scene with databases := database :: scene.databases, site := after } := by
  have states := Site.state_create creates
  have stage := sound.stage.create allocated creates
  cases creates
  have isNew : scene.site.state ⟨scene.site.databases.next⟩ = {} :=
    Site.state_of_next_le (Nat.le_refl _)
  refine ⟨stage, fun connection isOpen => List.mem_cons_of_mem _ (sound.known connection isOpen),
    List.forall_mem_cons.mpr ⟨known, sound.built⟩, sound.allocated,
    List.forall_mem_cons.mpr ⟨?_, fun other isOther => ?_⟩,
    List.forall_mem_cons.mpr ⟨fun isClosed => ?_, fun other isOther isClosed => ?_⟩⟩
  · -- No connection is open on a database that was not there.
    rw [Database.openConnections, states, isNew]
    refine (List.countP_eq_zero.mpr fun connection isOpen same => ?_).symm
    have added := sound.stage.added _ (sound.known connection isOpen)
    rw [of_decide_eq_true same] at added
    exact Nat.lt_irrefl _ added
  · rw [Database.openConnections, states]
    exact sound.counted other isOther
  · rw [Database.isClosed, states, isNew] at isClosed
    cases isClosed
  · rw [Database.isClosed, states] at isClosed
    exact sound.emptied other isOther isClosed

theorem make (sound : scene.IsSound) {action : Action StoreError Storage} {storage : Storage}
    (makes : Storage.Makes scene.storages action)
    (made : action scene.site = (.ok storage, after)) :
    IsSound { scene with storages := storage :: scene.storages, site := after } := by
  have fillsNone := makes.fillsNone.of_ok made
  have allocated := makes.allocated sound.allocated made
  have without := sound.of_fillsNone fillsNone
  exact {
    stage := without.stage
    known := without.known
    built := fun database known => List.mem_cons_of_mem _ (without.built database known)
    allocated := List.forall_mem_cons.mpr ⟨allocated, without.allocated⟩
    counted := without.counted
    emptied := without.emptied }

end IsSound

/-- Scenes stay sound with each step. -/
theorem Step.isSound (step : Step scene later) (sound : scene.IsSound) : later.IsSound := by
  cases step with
  | acted acts => exact acts.isSound sound
  | made makes made => exact sound.make makes made
  | created id known allocated creates => exact sound.create known allocated creates
  | connected known connects => exact sound.connect known connects
  | set key record isOpen => exact sound.replace isOpen rfl
  | committed isOpen commits =>
    have fillsNone := (Connection.fillsNone_commit _).of_ok commits
    exact (sound.of_fillsNone fillsNone).replace isOpen (Connection.database_of_commit commits)
  | aborted isOpen => exact sound.replace isOpen rfl
  | dropped isOpen => exact sound.drop isOpen

/-- Where there are files only, nothing is wrong. -/
theorem isSound_start (files : FileTree) : (start files).IsSound where
  stage := .start fun _ => rfl
  known := List.forall_mem_nil _
  built := List.forall_mem_nil _
  allocated := List.forall_mem_nil _
  counted := List.forall_mem_nil _
  emptied := List.forall_mem_nil _

/-- A run from a sound scene leads to a sound one. -/
theorem Run.isSound_of (run : Run scene later) (sound : scene.IsSound) : later.IsSound := by
  induction run with
  | refl => exact sound
  | tail _ step ih => exact step.isSound ih

/-- Every run that begins with files only leads to a sound scene. -/
theorem Run.isSound {files : FileTree} (run : Run (start files) scene) : scene.IsSound :=
  run.isSound_of (isSound_start files)

/-! ### Closed databases -/

theorem Acts.staysClosed (acts : scene.Acts after) (sound : scene.IsSound) {database : Database}
    (isClosed : database.isClosed scene.site = true) : database.isClosed after = true := by
  have ofFillsNone : ∀ {between}, Site.FillsNone scene.site between →
      database.isClosed between = true := by
    intro between fillsNone
    rw [Database.isClosed, fillsNone.state]
    exact isClosed
  cases acts with
  | notMade makes fails => exact ofFillsNone (makes.fillsNone.of_error fails)
  | stored batch _ => exact ofFillsNone (Storage.fillsNone_store _ batch scene.site)
  | closedStorage _ => exact ofFillsNone (Storage.fillsNone_close _ scene.site)
  | cleanedUp _ => exact ofFillsNone (Storage.fillsNone_cleanUp _ scene.site)
  | addedRegistry => exact isClosed
  | @registered other id allocated known =>
    rw [Database.isClosed, Site.state, (id.register_frame other scene.site).1]
    exact isClosed
  | closed known => exact ((sound.stage.clears_close known).closed _).mpr (.inl isClosed)
  | closedAll id => exact ((sound.stage.clears_closeAll id).closed _).mpr (.inl isClosed)
  | @notConnected other _ _ known fails =>
    have same := Site.SameMembers.connect other scene.site
    rw [fails] at same
    exact (same.closed _).trans isClosed
  | refused _ fails => exact ofFillsNone ((Connection.fillsNone_commit _).of_error fails)
  | elsewhere files history => exact isClosed

/-- A step forgets no database, and opens none again that is closed. -/
theorem Step.staysClosed (step : Step scene later) (sound : scene.IsSound) {database : Database}
    (known : database ∈ scene.databases) (isClosed : database.isClosed scene.site = true) :
    database ∈ later.databases ∧ database.isClosed later.site = true := by
  cases step with
  | acted acts => exact ⟨known, acts.staysClosed sound isClosed⟩
  | made makes made =>
    refine ⟨known, ?_⟩
    rw [Database.isClosed, (makes.fillsNone.of_ok made).state]
    exact isClosed
  | created _ _ _ creates =>
    refine ⟨List.mem_cons_of_mem _ known, ?_⟩
    rw [Database.isClosed, Site.state_create creates]
    exact isClosed
  | @connected other _ _ _ connects =>
    have same := Site.SameMembers.connect other scene.site
    rw [connects] at same
    exact ⟨known, (same.closed _).trans isClosed⟩
  | set => exact ⟨known, isClosed⟩
  | committed _ commits =>
    refine ⟨known, ?_⟩
    rw [Database.isClosed, ((Connection.fillsNone_commit _).of_ok commits).state]
    exact isClosed
  | aborted => exact ⟨known, isClosed⟩
  | dropped => exact ⟨known, ((Site.SameMembers.release _ scene.site).closed _).trans isClosed⟩

/-- A run forgets no database, and opens none again that is closed. -/
theorem Run.staysClosed (run : Run scene later) (sound : scene.IsSound) {database : Database}
    (known : database ∈ scene.databases) (isClosed : database.isClosed scene.site = true) :
    database ∈ later.databases ∧ database.isClosed later.site = true := by
  induction run with
  | refl => exact ⟨known, isClosed⟩
  | tail before step ih => exact step.staysClosed (Run.isSound_of before sound) ih.1 ih.2

end Scene

end StoreTopology

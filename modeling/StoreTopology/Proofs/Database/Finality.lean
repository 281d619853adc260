/-
**Closed databases.**

* `Connection.IsStranded`: a connection answers with its pending writes, which it cannot commit;
* `Database.IsFinal`: nothing can be done any more with a database, its storage and its connections;
* `Scene.Run.isFinal`: so it is at all times after a database was closed.
-/

import StoreTopology.Proofs.Database.Agreement
import StoreTopology.Proofs.Database.Using

namespace StoreTopology

open StoreTopology.Action

/-! ### Connections to closed databases -/

/-- A connection answers with its pending writes and nothing else, and it cannot commit them. -/
structure Connection.IsStranded (connection : Connection) (site : Site) : Prop where
  get?_pending : ∀ {key record}, connection.pending.get? key = some record →
    connection.get? site key = .ok (some record)
  get?_other : ∀ {key}, connection.pending.get? key = none →
    ∃ name, connection.get? site key = .error (.closed name)
  root : ∃ name, connection.root site = .error (.closed name)
  /-- There is no other connection to go on with, so that all writes stay pending. The attempt is
  logged. -/
  commit : connection.hasPending = true → ∃ error text,
    connection.commit site = (.error error, site.log .debug text) ∧
      connection.database.storage.TurnsAway error

theorem Connection.isStranded_of_isEmptied {connection : Connection} {site : Site}
    (plain : connection.database.storage.isPlain = true)
    (emptied : connection.database.storage.IsEmptied site) : connection.IsStranded site where
  get?_pending := fun isPending => by
    rw [get?, isPending]
  get?_other := fun {key} notPending => by
    obtain ⟨name, failed⟩ := Storage.load?_of_isEmptied plain emptied key
    refine ⟨name, ?_⟩
    rw [get?, notPending]
    exact failed
  root := by
    obtain ⟨name, failed⟩ := Storage.keys_of_isEmptied plain emptied
    exact ⟨name, root_error failed⟩
  commit := fun isPending => by
    rcases commit_apply connection site with ⟨nothing, _⟩ | ⟨text, stores⟩
    · rw [hasPending, nothing] at isPending
      cases isPending
    · -- Logging fills no cell.
      have stillEmpty : connection.database.storage.IsEmptied (site.log .debug text) := emptied
      obtain ⟨error, failed, turnsAway⟩ :=
        Storage.store_of_isEmptied plain stillEmpty connection.pending
      exact ⟨error, text, stores.trans (bind_of_error failed), turnsAway⟩

/-! ### Closed databases -/

/-- Nothing can be done any more with a database, with its storage and those that are nested in it,
and with its connections. What is tried changes no file and no cell. -/
structure Database.IsFinal (database : Database) (site : Site) : Prop where
  connect : database.connect site = (.error (.closed database.storage.name), site)
  layers : ∀ layer ∈ database.storage.layers, layer.IsShut site
  connections : ∀ connection : Connection, connection.database = database →
    connection.IsStranded site
  close : database.close site = (.ok (), site)

theorem Database.isFinal_of_isEmptied {database : Database} {site : Site}
    (isClosed : database.isClosed site = true) (plain : database.storage.isPlain = true)
    (emptied : database.storage.IsEmptied site) : database.IsFinal site where
  connect := connect_of_isClosed isClosed
  layers := fun layer isLayer =>
    Storage.isShut_of_isEmptied (Storage.isPlain_of_mem_layers plain isLayer)
      fun cell own => emptied cell (Storage.cells_of_mem_layers isLayer cell own)
  connections := by
    rintro connection rfl
    exact connection.isStranded_of_isEmptied plain emptied
  close := close_of_isClosed isClosed

/-- **Closed means closed.** After a database was closed nothing can be done with it, whatever was
done before, and whatever is done with it and all others afterwards. -/
theorem Scene.Run.isFinal {files : FileTree} {scene later : Scene} {database : Database}
    (run : Run (start files) scene) (known : database ∈ scene.databases)
    (plain : database.storage.isPlain = true)
    (after : Run { scene with site := (database.close scene.site).2 } later) :
    database.IsFinal later.site := by
  have sound := Run.isSound run
  have isClosed : database.isClosed (database.close scene.site).2 = true :=
    ((sound.stage.clears_close known).closed database.id).mpr (.inr (List.mem_singleton_self _))
  have soundLater := Run.isSound_of after (sound.close known)
  obtain ⟨knownLater, isClosedLater⟩ := Run.staysClosed after (sound.close known) known isClosed
  exact Database.isFinal_of_isEmptied isClosedLater plain
    (soundLater.emptied database knownLater isClosedLater)

/-- A database over a demo storage, whose base is read-only. -/
def layered : Database := ⟨⟨0⟩, .demo "layer" (.memory "base" true ⟨0⟩) ⟨1⟩, {}, ⟨0⟩⟩

/-- A connection to it, with one key pending. -/
def layeredConnection : Connection := ⟨layered, .ofList [("a", .ofJson .null)]⟩

/-- The database is open, and has this connection. -/
def layeredScene : Scene where
  storages := [layered.storage, .memory "base" true ⟨0⟩]
  databases := [layered]
  connections := [layeredConnection]
  site :=
    { cells := ⟨[some .empty, some .empty]⟩
      databases := ⟨[{ openConnections := 1 }]⟩
      registries := ⟨[.empty]⟩ }

/-- The database was closed, and then the connection tried to commit. -/
def layeredRefusal : Site := (layeredConnection.commit (layered.close layeredScene.site).2).2

theorem run_layeredScene : Scene.Run (.start {}) layeredScene := by
  let fresh : Connection := ⟨layered, .empty⟩
  have connected : Scene.Run (.start {}) { layeredScene with connections := [] ++ fresh :: [] } :=
    .tail (.tail (.tail (.tail (.tail .refl (.made (.memory "base" true) rfl))
      (.made (.demo (some "layer") (List.mem_singleton_self _)) rfl))
      (.acted .addedRegistry))
      (.created ⟨0⟩ List.mem_cons_self (by decide) rfl))
      (.connected (List.mem_singleton_self layered) rfl)
  have wrote : Scene.Step { layeredScene with connections := [] ++ fresh :: [] }
      { layeredScene with connections := [] ++ fresh.set "a" (.ofJson .null) :: [] } :=
    .set "a" (.ofJson .null) rfl
  exact .tail connected wrote

/-- The connection still answers with what is pending, and with nothing else. The base refuses
records as read-only, as it did all the time. -/
theorem isFinal_layeredRefusal :
    layeredConnection.get? layeredRefusal "a" = .ok (some (.ofJson .null)) ∧
      (∃ name, layeredConnection.get? layeredRefusal "b" = .error (.closed name)) ∧
      (Storage.memory "base" true ⟨0⟩).store .empty layeredRefusal =
        (.error (.readOnly "base"), layeredRefusal) := by
  have isLayered : layered ∈ layeredScene.databases := List.mem_singleton_self layered
  have refused : Scene.Run { layeredScene with site := (layered.close layeredScene.site).2 }
      { layeredScene with site := layeredRefusal } :=
    .single (.acted (.refused (List.mem_singleton_self layeredConnection) rfl))
  have isFinal : layered.IsFinal layeredRefusal :=
    Scene.Run.isFinal run_layeredScene isLayered rfl refused
  have stranded := isFinal.connections layeredConnection rfl
  have isBase : .memory "base" true ⟨0⟩ ∈ layered.storage.layers := by decide
  obtain ⟨error, failed, rfl⟩ := (isFinal.layers _ isBase).store .empty
  exact ⟨stranded.get?_pending rfl, stranded.get?_other rfl, failed⟩

end StoreTopology

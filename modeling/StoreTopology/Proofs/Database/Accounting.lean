/-
**Databases count their connections.**

* `Database.PoolLogged`: an attempt to connect logs the warning about the pool, or nothing;
* `Scene.Accounts`: the numbers of connections are right, and so are the warnings;
* `Scene.Run.accounts`: so it is in every scene that can be reached.
-/

import StoreTopology.Proofs.Database.Using

namespace StoreTopology

/-! ### Warnings -/

/-- An attempt to connect logs the warning about the pool of the database, or nothing. It warns just
if it succeeds with more connections than the pool is for. -/
structure Database.PoolLogged (database : Database) (outcome : Except StoreError Connection)
    (before after : Site) : Prop where
  logged : after.history = before.history ∨ after.history =
    before.history ++ [database.poolWarning (database.openConnections after)]
  warned_iff : after.history =
      before.history ++ [database.poolWarning (database.openConnections after)] ↔
    (∃ connection, outcome = .ok connection) ∧
      database.settings.poolSize.toNat < database.openConnections after

namespace Database

variable {database : Database} {site : Site}

/-- No history is the same with one more event. -/
theorem history_ne_append (history : List Event) (event : Event) :
    history ≠ history ++ [event] := by
  intro same
  have longer := congrArg List.length same
  rw [List.length_append, List.length_singleton] at longer
  omega

theorem poolLogged_connect (added : database.id.number < site.databases.next) :
    database.PoolLogged (database.connect site).1 site (database.connect site).2 := by
  cases isClosed : database.isClosed site with
  | true =>
    rw [connect_of_isClosed isClosed]
    refine ⟨.inl rfl, fun same => (history_ne_append _ _ same).elim, ?_⟩
    rintro ⟨⟨_, succeeded⟩, _⟩
    cases succeeded
  | false =>
    have count := openConnections_connect isClosed added database.id
    rw [if_pos rfl] at count
    have counted : database.openConnections (database.connect site).2 = _ := count
    have succeeded : (database.connect site).1 = .ok ⟨database, .empty⟩ := by
      rw [connect_of_isOpen isClosed]
    by_cases exceeded : database.settings.poolSize.toNat < database.openConnections site + 1
    · have history : (database.connect site).2.history =
          site.history ++ [database.poolWarning (database.openConnections site + 1)] := by
        rw [connect_of_isOpen isClosed, if_pos exceeded]
        rfl
      rw [← counted] at history exceeded
      exact ⟨.inr history, fun _ => ⟨⟨_, succeeded⟩, exceeded⟩, fun _ => history⟩
    · have history : (database.connect site).2.history = site.history := by
        rw [connect_of_isOpen isClosed, if_neg exceeded]
        rfl
      rw [← counted] at exceeded
      refine ⟨.inl history, fun warned => ?_, fun both => (exceeded both.2).elim⟩
      rw [history] at warned
      exact (history_ne_append _ _ warned).elim

end Database

/-! ### Numbers of connections -/

/-- The numbers of connections are right at all times. -/
structure Scene.Accounts (scene : Scene) : Prop where
  /-- A database has as many connections as were opened on it and not dropped, closed or not. -/
  counted : ∀ database ∈ scene.databases,
    database.openConnections scene.site = scene.opened database
  /-- There is one to take off when a connection is dropped. -/
  positive : ∀ connection ∈ scene.connections,
    0 < connection.database.openConnections scene.site
  /-- Only connecting to a closed database fails, and otherwise there is one connection more. -/
  connect : ∀ database ∈ scene.databases,
    ((∃ connection, (database.connect scene.site).1 = .ok connection) ↔
        database.isClosed scene.site = false) ∧
      database.openConnections (database.connect scene.site).2 =
        if database.isClosed scene.site then database.openConnections scene.site
        else database.openConnections scene.site + 1
  warns : ∀ database ∈ scene.databases,
    database.PoolLogged (database.connect scene.site).1 scene.site (database.connect scene.site).2

namespace Scene

variable {scene : Scene}

theorem accounts_of_isSound (sound : scene.IsSound) : scene.Accounts where
  counted := sound.counted
  positive := fun connection isOpen => by
    rw [sound.counted _ (sound.known connection isOpen)]
    exact List.countP_pos_iff.mpr ⟨connection, isOpen, decide_eq_true rfl⟩
  connect := fun database known => by
    cases isClosed : database.isClosed scene.site with
    | true =>
      rw [Database.connect_of_isClosed isClosed]
      refine ⟨⟨?_, fun isOpen => nomatch isOpen⟩, rfl⟩
      rintro ⟨_, succeeded⟩
      cases succeeded
    | false =>
      refine ⟨⟨fun _ => rfl, fun _ => ⟨_, by rw [Database.connect_of_isOpen isClosed]⟩⟩, ?_⟩
      have count := Database.openConnections_connect isClosed
        (sound.stage.added database known) database.id
      rw [if_pos rfl] at count
      exact count
  warns := fun database known => Database.poolLogged_connect (sound.stage.added database known)

/-- **Databases count their connections.** Whatever was done, a database has as many connections as
were opened on it and not dropped yet, even if it was closed meanwhile. No drop takes one off where
there is none, and connecting warns just if it succeeds and the pool is for less. -/
theorem Run.accounts {files : FileTree} (run : Run (start files) scene) : scene.Accounts :=
  accounts_of_isSound (Run.isSound run)

end Scene

/-- A database whose pool is for one connection. -/
def pooled : Database := ⟨⟨0⟩, .mapping "pooled" ⟨0⟩, { poolSize := 1 }, ⟨0⟩⟩

/-- The database has one connection. -/
def pooledScene : Scene where
  storages := [pooled.storage]
  databases := [pooled]
  connections := [⟨pooled, .empty⟩]
  site :=
    { cells := ⟨[some .empty]⟩
      databases := ⟨[{ openConnections := 1 }]⟩
      registries := ⟨[.empty]⟩ }

theorem run_pooledScene : Scene.Run (.start {}) pooledScene :=
  .tail (.tail (.tail (.tail .refl (.made (.mapping "pooled" .empty) rfl))
    (.acted .addedRegistry))
    (.created ⟨0⟩ (List.mem_singleton_self _) (by decide) rfl))
    (.connected (List.mem_singleton_self pooled) rfl)

/-- A second connection is one too many, and the first still counts when the database is closed. -/
theorem accounts_pooledScene :
    (pooled.connect pooledScene.site).2.history = [pooled.poolWarning 2] ∧
      pooled.isClosed (pooled.close pooledScene.site).2 = true ∧
      pooled.openConnections (pooled.close pooledScene.site).2 = 1 := by
  have isPooled : pooled ∈ pooledScene.databases := List.mem_singleton_self pooled
  have closed : Scene.Run (.start {}) { pooledScene with site := (pooled.close _).2 } :=
    .tail run_pooledScene (.acted (.closed isPooled))
  have warns := (Scene.Run.accounts run_pooledScene).warns pooled isPooled
  have counted := (Scene.Run.accounts closed).counted pooled isPooled
  exact ⟨warns.warned_iff.mpr ⟨⟨_, rfl⟩, by decide⟩, rfl, counted.trans (by decide)⟩

end StoreTopology

/-
**Registries over the lives of databases.**

Names are used again by other databases, so that registries have to go by which database is meant.

* `Run.goesByIdentity`: whatever was done before, closing a database takes its own entry out and
  no other one, and a closed database stays closed;
* `Step.listed`, `Step.staysOpen`: what is listed after a step was registered or stays as it is;
* `Run.closeAll_empties`: closing all databases of a registry leaves those that were closed already,
  and where none is registered once it is closed there are none.
-/

import StoreTopology.Proofs.Database.Membership

namespace StoreTopology

variable {mayRegister : Site → RegistryId → Database → Prop} {stage later : Stage} {first : Site}

/-! ### Names that are used again -/

/-- The registries go by which database is meant, and not by its name. -/
structure Stage.GoesByIdentity (stage : Stage) : Prop where
  /-- The databases are told apart by their numbers, whatever their names are. -/
  eq_of_id : ∀ database ∈ stage.databases, ∀ other ∈ stage.databases,
    database.id = other.id → database = other
  listed : ∀ {id : RegistryId} {name : String} {database : Database},
    (stage.site.registry id).get? name = some database →
      database ∈ stage.databases ∧ database.name = name
  /-- A registration fails just if the name is taken, and then nothing changes. -/
  register_eq_error_iff : ∀ {id : RegistryId} {database : Database} {error : StoreError}
    {after : Site}, id.register database stage.site = (.error error, after) ↔
      (stage.site.registry id).contains database.name = true ∧
        error = .duplicateDatabase database.name ∧ after = stage.site
  /-- Otherwise there is one entry more. -/
  get?_register : ∀ {id : RegistryId}, id.number < stage.site.registries.next →
    ∀ {database : Database}, (stage.site.registry id).contains database.name = false →
      ∀ {other : RegistryId} {name : String} {kept : Database},
        ((id.register database stage.site).2.registry other).get? name = some kept ↔
          (stage.site.registry other).get? name = some kept ∨
            other = id ∧ name = database.name ∧ kept = database
  /-- A database that is closed leaves its own registry, if it is open and listed there. -/
  close : ∀ database ∈ stage.databases,
    Site.Clears [database] stage.site (database.close stage.site).2
  close_again : ∀ database : Database, database.isClosed stage.site = true →
    database.close stage.site = (.ok (), stage.site)
  closeAll : ∀ id : RegistryId,
    Site.Clears (stage.site.registry id).values stage.site (id.closeAll stage.site).2
  /-- A closed database stays closed whatever happens, and no connection to it is opened. -/
  staysClosed : ∀ database : Database, database.isClosed stage.site = true →
    ∀ {mayRegister : Site → RegistryId → Database → Prop} {later : Stage},
      Run mayRegister stage later → database.isClosed later.site = true ∧
        database.connect later.site = (.error (.closed database.storage.name), later.site)

theorem Stage.GoesByIdentity.of_isSound (sound : stage.IsSound) : stage.GoesByIdentity where
  eq_of_id := fun _ known _ known' same => sound.eq_of_id known known' same
  listed := sound.listed
  register_eq_error_iff := RegistryId.register_eq_error_iff
  get?_register := fun allocated _ free _ _ _ =>
    (RegistryId.get?_register allocated).trans (or_congr_right (and_iff_right free))
  close := fun _ known => sound.clears_close known
  close_again := fun _ isClosed => Database.close_of_isClosed isClosed
  closeAll := sound.clears_closeAll
  staysClosed := fun _ isClosed _ _ run =>
    have isClosedLater := run.staysClosed sound isClosed
    ⟨isClosedLater, Database.connect_of_isClosed isClosedLater⟩

/-- Registries go by identity after every run that begins where nothing is listed. -/
theorem Run.goesByIdentity (nothing : ∀ id, first.registry id = .empty)
    (run : Run mayRegister ⟨[], first⟩ stage) : stage.GoesByIdentity :=
  .of_isSound (run.isSound nothing)

/-- Two databases of one name, which share a registry. -/
def olderNamesake : Database := ⟨⟨0⟩, .mapping "older" ⟨0⟩, { databaseName := "main" }, ⟨0⟩⟩

def newerNamesake : Database := ⟨⟨1⟩, .mapping "newer" ⟨1⟩, { databaseName := "main" }, ⟨0⟩⟩

/-- The two namesakes were created, with a registry and their memory cells. -/
def namesakes : Stage where
  databases := [newerNamesake, olderNamesake]
  site :=
    { cells := ⟨[some .empty, some .empty]⟩
      databases := ⟨[{}, {}]⟩
      registries := ⟨[.empty]⟩ }

theorem run_namesakes : Run mayRegister ⟨[], {}⟩ namesakes :=
  .tail (.tail (.tail (.tail .refl (.addedRegistry _))
    (.elsewhere _ {} ⟨[some .empty, some .empty]⟩ []))
    (.created ⟨0⟩ (by decide) rfl))
    (.created ⟨0⟩ (by decide) rfl)

/-- The older namesake is registered and closed, and the newer one registered after it. -/
def takenOver : Stage where
  databases := namesakes.databases
  site :=
    let site := (RegistryId.register ⟨0⟩ olderNamesake namesakes.site).2
    let site := (olderNamesake.close site).2
    (RegistryId.register ⟨0⟩ newerNamesake site).2

/-- Closing the older namesake once more leaves the entry of the newer one. -/
theorem goesByIdentity_takenOver :
    (takenOver.site.registry ⟨0⟩).get? "main" = some newerNamesake ∧
      olderNamesake.isClosed takenOver.site = true ∧
      ((olderNamesake.close takenOver.site).2.registry ⟨0⟩).get? "main" = some newerNamesake := by
  have isOlder : olderNamesake ∈ namesakes.databases := by decide
  have isNewer : newerNamesake ∈ namesakes.databases := by decide
  have registered : Run (fun _ _ _ => True) ⟨[], {}⟩ _ := .tail run_namesakes
    (.registered ⟨0⟩ (by decide) isOlder trivial)
  have run : Run (fun _ _ _ => True) ⟨[], {}⟩ takenOver :=
    .tail (.tail registered (.closed isOlder)) (.registered ⟨0⟩ (by decide) isNewer trivial)
  have listed : (takenOver.site.registry ⟨0⟩).get? "main" = some newerNamesake := rfl
  refine ⟨listed, rfl, ?_⟩
  exact ((Run.goesByIdentity (fun _ => rfl) run).close _ isOlder).get?.mpr ⟨listed, by decide⟩

/-! ### Closed databases -/

/-- What is listed after a step was listed before, or was registered. -/
theorem Step.listed (step : Step mayRegister stage later) (sound : stage.IsSound)
    {id : RegistryId} {name : String} {kept : Database}
    (isListed : (later.site.registry id).get? name = some kept) :
    (stage.site.registry id).get? name = some kept ∨
      mayRegister stage.site id kept ∧ later.site.databases = stage.site.databases := by
  cases step with
  | addedRegistry =>
    rw [Site.registry_addRegistry] at isListed
    exact .inl isListed
  | created _ _ creates =>
    cases creates
    exact .inl isListed
  | registered _ allocated _ allowed =>
    rcases (RegistryId.get?_register allocated).mp isListed with already | ⟨_, rfl, _, rfl⟩
    · exact .inl already
    · exact .inr ⟨allowed, (RegistryId.register_frame _ _ _).1⟩
  | closed known => exact .inl ((sound.clears_close known).get?.mp isListed).1
  | closedAll registry => exact .inl ((sound.clears_closeAll registry).get?.mp isListed).1
  | connected _ =>
    rw [Site.registry, (Site.SameMembers.connect _ _).registries] at isListed
    exact .inl isListed
  | released _ => exact .inl isListed
  | elsewhere files cells history => exact .inl isListed

/-- A database that is listed in its own registry was not closed, if it was open. -/
theorem Site.Clears.staysOpen {closing : List Database} {before after : Site}
    (clears : Site.Clears closing before after) {id : RegistryId} {name : String}
    {kept : Database} (identity : ∀ database ∈ closing, kept.id = database.id → kept = database)
    (isListed : (after.registry id).get? name = some kept) (own : kept.registry = id)
    (isOpen : kept.isClosed before = false) : kept.isClosed after = false := by
  have stays := (clears.get?.mp isListed).2
  refine Bool.eq_false_iff.mpr fun isClosed => ?_
  rcases (clears.closed kept.id).mp isClosed with already | isClosing
  · exact Bool.eq_false_iff.mp isOpen already
  · obtain ⟨database, present, same⟩ := List.mem_map.mp isClosing
    exact stays ⟨identity database present same.symm ▸ present, own, isOpen⟩

/-- The registries list only databases that belong to them. -/
def Stage.ListsOwn (stage : Stage) : Prop :=
  ∀ (id : RegistryId) (name : String) (database : Database),
    (stage.site.registry id).get? name = some database → database.registry = id

/-- The registries list only databases that are open. -/
def Stage.ListsOpen (stage : Stage) : Prop :=
  ∀ (id : RegistryId) (name : String) (database : Database),
    (stage.site.registry id).get? name = some database → database.isClosed stage.site = false

theorem Step.listsOwn (step : Step mayRegister stage later) (sound : stage.IsSound)
    (own : ∀ site id database, mayRegister site id database → id = database.registry)
    (listsOwn : stage.ListsOwn) : later.ListsOwn := by
  intro id name database isListed
  rcases step.listed sound isListed with already | ⟨allowed, _⟩
  · exact listsOwn id name database already
  · exact (own _ _ _ allowed).symm

/-- A step leaves a database open that it leaves listed in its own registry. -/
theorem Step.staysOpen (step : Step mayRegister stage later) (sound : stage.IsSound)
    {id : RegistryId} {name : String} {kept : Database} (known : kept ∈ stage.databases)
    (isListed : (later.site.registry id).get? name = some kept) (own : kept.registry = id)
    (isOpen : kept.isClosed stage.site = false) : kept.isClosed later.site = false := by
  cases step with
  | addedRegistry => exact isOpen
  | created _ _ creates =>
    rw [Database.isClosed, Site.state_create creates]
    exact isOpen
  | registered _ _ _ _ =>
    rw [Database.isClosed, Site.state, (RegistryId.register_frame _ _ stage.site).1]
    exact isOpen
  | closed isKnown =>
    refine (sound.clears_close isKnown).staysOpen (fun other closing same => ?_) isListed own isOpen
    exact sound.eq_of_id known (List.mem_singleton.mp closing ▸ isKnown) same
  | closedAll registry =>
    refine (sound.clears_closeAll registry).staysOpen (fun other closing same => ?_)
      isListed own isOpen
    exact sound.eq_of_id known (sound.mem_of_value closing) same
  | connected _ => exact ((Site.SameMembers.connect _ _).closed _).trans isOpen
  | released _ => exact ((Site.SameMembers.release _ _).closed _).trans isOpen
  | elsewhere files cells history => exact isOpen

theorem Step.listsOpen (step : Step mayRegister stage later) (sound : stage.IsSound)
    (onlyOpen : ∀ site id database, mayRegister site id database →
      database.isClosed site = false)
    (listsOwn : stage.ListsOwn) (listsOpen : stage.ListsOpen) : later.ListsOpen := by
  intro id name database isListed
  rcases step.listed sound isListed with already | ⟨allowed, same⟩
  · exact step.staysOpen sound (sound.listed already).1 isListed
      (listsOwn id name database already) (listsOpen id name database already)
  · rw [Database.isClosed, Site.state, same]
    exact onlyOpen _ _ _ allowed

/-- Registries list what belongs to them, if that is so of each registration. -/
theorem Run.listsOwn (own : ∀ site id database, mayRegister site id database →
      id = database.registry)
    (nothing : ∀ id, first.registry id = .empty) (run : Run mayRegister ⟨[], first⟩ stage) :
    stage.ListsOwn :=
  (run.preserves (.start nothing) (fun _ _ _ isListed => (first.not_listed nothing isListed).elim)
    fun step sound => step.listsOwn sound own).2

/-- They list open databases, if those that are registered are open then. -/
theorem Run.listsOpen (own : ∀ site id database, mayRegister site id database →
      id = database.registry)
    (onlyOpen : ∀ site id database, mayRegister site id database →
      database.isClosed site = false)
    (nothing : ∀ id, first.registry id = .empty) (run : Run mayRegister ⟨[], first⟩ stage) :
    stage.ListsOpen := by
  have both : stage.IsSound ∧ stage.ListsOwn ∧ stage.ListsOpen := by
    refine run.preserves (P := fun stage => stage.ListsOwn ∧ stage.ListsOpen) (.start nothing)
      ⟨?_, ?_⟩ fun step sound lists => ?_
    · exact fun _ _ _ isListed => (first.not_listed nothing isListed).elim
    · exact fun _ _ _ isListed => (first.not_listed nothing isListed).elim
    · exact ⟨step.listsOwn sound own lists.1, step.listsOpen sound onlyOpen lists.1 lists.2⟩
  exact both.2.2

/-- Closing all databases of a registry leaves just those entries whose databases were closed
already. -/
theorem Stage.IsSound.get?_closeAll (sound : stage.IsSound) (listsOwn : stage.ListsOwn)
    {id : RegistryId} {name : String} {database : Database} :
    ((id.closeAll stage.site).2.registry id).get? name = some database ↔
      (stage.site.registry id).get? name = some database ∧
        database.isClosed stage.site = true := by
  rw [(sound.clears_closeAll id).get?]
  refine and_congr_right fun isListed => ?_
  have isValue : database ∈ (stage.site.registry id).values :=
    List.mem_map_of_mem (f := Prod.snd) (SortedMap.mem_entries.mpr isListed)
  rw [← Bool.not_eq_false]
  exact not_congr ⟨fun both => both.2.2, fun isOpen => ⟨isValue, listsOwn _ _ _ isListed, isOpen⟩⟩

/-- Where databases are registered in their own registries only, closing all databases of a
registry leaves those entries whose databases were closed already. If none is registered once it is
closed, no registry lists a closed database, and so none is left. -/
theorem Run.closeAll_empties (own : ∀ site id database, mayRegister site id database →
      id = database.registry)
    (nothing : ∀ id, first.registry id = .empty) (run : Run mayRegister ⟨[], first⟩ stage) :
    (∀ (id : RegistryId) (name : String) (database : Database),
      ((id.closeAll stage.site).2.registry id).get? name = some database ↔
        (stage.site.registry id).get? name = some database ∧
          database.isClosed stage.site = true) ∧
    ((∀ site id database, mayRegister site id database → database.isClosed site = false) →
      stage.ListsOpen ∧
        ∀ id : RegistryId, (id.closeAll stage.site).2.registry id = .empty) := by
  have sound := run.isSound nothing
  have listsOwn := run.listsOwn own nothing
  refine ⟨fun id name database => sound.get?_closeAll listsOwn, fun onlyOpen => ?_⟩
  have listsOpen := run.listsOpen own onlyOpen nothing
  refine ⟨listsOpen, fun id => ?_⟩
  refine SortedMap.ext_get? fun name => Option.eq_none_iff_forall_ne_some.mpr ?_
  intro database isLeft
  obtain ⟨isListed, isClosed⟩ := (sound.get?_closeAll listsOwn).mp isLeft
  rw [listsOpen id name database isListed] at isClosed
  cases isClosed

/-- A database that is registered while it is open does not stay listed. -/
theorem closeAll_empties_namesake :
    ((RegistryId.register ⟨0⟩ olderNamesake namesakes.site).2.registry ⟨0⟩).get? "main" =
        some olderNamesake ∧
      (RegistryId.closeAll ⟨0⟩
        (RegistryId.register ⟨0⟩ olderNamesake namesakes.site).2).2.registry ⟨0⟩ = .empty := by
  have isOlder : olderNamesake ∈ namesakes.databases := by decide
  have run : Run (fun site id database => id = database.registry ∧ database.isClosed site = false)
      ⟨[], {}⟩ _ :=
    .tail run_namesakes (.registered ⟨0⟩ (by decide) isOlder ⟨rfl, rfl⟩)
  refine ⟨rfl, ?_⟩
  exact ((Run.closeAll_empties (fun _ _ _ allowed => allowed.1) (fun _ => rfl) run).2
    fun _ _ _ allowed => allowed.2).2 ⟨0⟩

/-- The older namesake is closed, and registered after that. -/
def registeredLate : Stage where
  databases := namesakes.databases
  site := (RegistryId.register ⟨0⟩ olderNamesake (olderNamesake.close namesakes.site).2).2

/-- A closed database that is registered, in its own registry, stays listed when all databases of
the registry are closed. -/
theorem closeAll_leaves_namesake :
    Run (fun _ id database => id = database.registry) ⟨[], {}⟩ registeredLate ∧
      ¬ registeredLate.ListsOpen ∧
      ((RegistryId.closeAll ⟨0⟩ registeredLate.site).2.registry ⟨0⟩).get? "main" =
        some olderNamesake := by
  have isOlder : olderNamesake ∈ namesakes.databases := by decide
  refine ⟨.tail (.tail run_namesakes (.closed isOlder))
    (.registered ⟨0⟩ (by decide) isOlder rfl), fun listsOpen => ?_, rfl⟩
  have isOpen : olderNamesake.isClosed registeredLate.site = false :=
    listsOpen ⟨0⟩ "main" olderNamesake rfl
  exact Bool.noConfusion isOpen

end StoreTopology

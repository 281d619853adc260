/-
**A compilation that fails closes the databases that it registered.**

* `Catalog.isNew_of_orderly`: with orderly builders, a database that a section built is new;
* `RegistryId.Released`: the databases of a registry are closed, each in one attempt to close its
  storage, and the registry is empty;
* `compile_error_released`: so it is after a compilation that fails at one of its sections, and its
  error is the one of that section.
-/

import StoreTopology.Proofs.Builder.Orderly
import StoreTopology.Proofs.Topology.Building
import StoreTopology.Proofs.Topology.Validation

namespace StoreTopology

open StoreTopology.Action

namespace Catalog

variable {catalog : Catalog} {registry : RegistryId} {block : Section} {forest : List Section}
  {site after : Site}

/-! ### Building with orderly builders -/

theorem spares_build (orderly : catalog.IsOrderly) (registry : RegistryId) (block : Section) :
    Within Site.Spares (build catalog registry block) :=
  within_build Site.admits_spares.log
    (fun typeName builder found => (orderly typeName builder found).spares registry) block

theorem spares_buildAll (orderly : catalog.IsOrderly) (registry : RegistryId)
    (forest : List Section) : Within Site.Spares (buildAll catalog registry forest) :=
  within_buildAll Site.admits_spares.log
    (fun typeName builder found => (orderly typeName builder found).spares registry) forest

/-- Each result of building sections in turn is the result of one of them. -/
theorem exists_build_of_mem (orderly : catalog.IsOrderly) {results : List Built} {built : Built}
    (succeeded : buildAll catalog registry forest site = (.ok results, after))
    (present : built ∈ results) :
    ∃ child ∈ forest, ∃ start stop, build catalog registry child start = (.ok built, stop) ∧
      site.databases.next ≤ start.databases.next ∧
        stop.databases.next ≤ after.databases.next := by
  induction forest generalizing site results with
  | nil =>
    cases succeeded
    cases present
  | cons child rest ih =>
    rw [buildAll] at succeeded
    obtain ⟨first, between, builtFirst, succeeded⟩ := bind_eq_ok_iff.mp succeeded
    obtain ⟨others, _, builtOthers, succeeded⟩ := bind_eq_ok_iff.mp succeeded
    cases succeeded
    rcases List.mem_cons.mp present with rfl | later
    · exact ⟨child, List.mem_cons_self, site, between, builtFirst, Nat.le_refl _,
        ((spares_buildAll orderly registry rest).of_ok builtOthers).databases⟩
    · obtain ⟨other, isLater, start, stop, builtOther, began, ended⟩ := ih builtOthers later
      refine ⟨other, List.mem_cons_of_mem _ isLater, start, stop, builtOther, ?_, ended⟩
      exact Nat.le_trans ((spares_build orderly registry child).of_ok builtFirst).databases began

/-- With orderly builders, a database that a section built is new. -/
theorem isNew_of_orderly (orderly : catalog.IsOrderly) {database : Database}
    (succeeded : build catalog registry block site = (.ok (.database database), after)) :
    database.IsNew registry site after := by
  induction block using Section.induction generalizing site after with
  | step block ih =>
    obtain ⟨builder, below, options, between, before, found, builtBelow, grows, _, built⟩ :=
      build_eq_ok succeeded
    have began := ((spares_buildAll orderly registry block.children).of_ok builtBelow).databases
    have ended := ((orderly _ _ found).spares registry _ _ _).of_ok built
    rcases (orderly _ _ found).isNew built with isNew | nested
    · exact isNew.extend (Nat.le_trans began grows.next) (Nat.le_refl _)
    · obtain ⟨child, isChild, start, stop, builtChild, begun, done⟩ :=
        exists_build_of_mem orderly builtBelow nested
      exact (ih child isChild builtChild).extend begun
        (Nat.le_trans done (Nat.le_trans grows.next ended.databases))

end Catalog

/-! ### The databases that are registered -/

namespace RegistryId.Owns

variable {id : RegistryId} {site before after : Site} {database : Database}
  {done databases : List Database} {catalog : Catalog} {block : Section} {forest : List Section}

theorem of_spares (owns : id.Owns before done) (spares : Site.Spares before after) :
    id.Owns after done where
  toLists := owns.toLists.of_keeps spares.toKeepsRegistries
  idsDiffer := owns.idsDiffer
  registry := owns.registry
  added := fun other present => Nat.lt_of_lt_of_le (owns.added other present) spares.databases
  isOpen := fun other present => (spares.closed other.id).trans (owns.isOpen other present)

/-- A new registry owns nothing. -/
theorem addRegistry (site : Site) : site.addRegistry.1.Owns site.addRegistry.2 [] where
  toLists := .addRegistry site
  idsDiffer := .nil
  registry := fun _ none => nomatch none
  added := fun _ none => nomatch none
  isOpen := fun _ none => nomatch none

theorem isOpen_of_isNew (isNew : database.IsNew id before after)
    (spares : Site.Spares before after) : database.isClosed after = false := by
  refine (spares.closed database.id).trans ?_
  rw [Site.state_of_next_le isNew.notBefore]

/-- A top-level section adds its database, and closes nothing. -/
theorem buildDatabase (orderly : catalog.IsOrderly) (owns : id.Owns site done)
    (succeeded : catalog.buildDatabase id block site = (.ok database, after)) :
    id.Owns after (done ++ [database]) ∧ after.closings = site.closings := by
  obtain ⟨between, built, registered⟩ := Catalog.buildDatabase_eq_ok_iff.mp succeeded
  have spares := (Catalog.spares_build orderly id block).of_ok built
  have isNew := Catalog.isNew_of_orderly orderly built
  refine ⟨(owns.of_spares spares).register (isNew.id_notMem owns.added) isNew.registry isNew.added
    (isOpen_of_isNew isNew spares) registered, ?_⟩
  obtain ⟨_, rfl⟩ := register_eq_ok_iff.mp registered
  exact (Site.closings_remember rfl between).trans spares.closings

/-- Top-level sections add their databases, and close nothing. -/
theorem buildDatabases (orderly : catalog.IsOrderly) (owns : id.Owns site done)
    (succeeded : catalog.buildDatabases id forest site = (.ok databases, after)) :
    id.Owns after (done ++ databases) ∧ after.closings = site.closings := by
  induction forest generalizing site done databases with
  | nil =>
    cases succeeded
    rw [List.append_nil]
    exact ⟨owns, rfl⟩
  | cons block rest ih =>
    obtain ⟨database, between, others, built, builtOthers, rfl⟩ :=
      Catalog.buildDatabases_cons_iff.mp succeeded
    obtain ⟨ownsFirst, closings⟩ := owns.buildDatabase orderly built
    obtain ⟨ownsAll, closingsAll⟩ := ih ownsFirst builtOthers
    rw [List.append_assoc, List.singleton_append] at ownsAll
    exact ⟨ownsAll, closingsAll.trans closings⟩

/-- A database whose name is taken is closed, and the one that has the name stays. -/
theorem close_refused (owns : id.Owns site done) (registry : database.registry = id)
    (other : database.id ∉ done.map Database.id) (added : database.id.number < site.databases.next)
    (isOpen : database.isClosed site = false) :
    id.Owns (database.close site).2 done := by
  have closes := Site.Closes.of_close isOpen added
  have notListed : ∀ registered, (site.registry database.registry).get? database.name =
      some registered → registered.id ≠ database.id := by
    intro registered listed same
    rw [registry] at listed
    obtain ⟨isDone, _⟩ := owns.get?_eq_some_iff.mp listed
    exact other (same ▸ List.mem_map_of_mem isDone)
  have registries : (database.close site).2.registries = site.registries := by
    rw [Database.close_of_isOpen isOpen, Storage.close_frame]
    exact Database.registries_leave_of_other notListed
  refine ⟨owns.toLists.of_keeps (.of_same registries), owns.idsDiffer, owns.registry, ?_, ?_⟩
  · intro kept isDone
    rw [closes.nextDatabase]
    exact owns.added kept isDone
  · intro kept isDone
    refine closes.isClosed_of_ne (owns.isOpen kept isDone) fun present => ?_
    rw [List.map_singleton, List.mem_singleton] at present
    exact other (present ▸ List.mem_map_of_mem isDone)

end RegistryId.Owns

/-! ### Compilations that fail -/

/-- The databases of a compilation were released. It began on one site, failed on another, and closed
databases from a third one on. -/
structure RegistryId.Released (id : RegistryId) (databases : List Database)
    (began failing closing after : Site) : Prop where
  idsDiffer : (databases.map Database.id).Nodup
  isClosed : ∀ database ∈ databases, database.isClosed after = true
  /-- The storage of each of them was closed in one attempt, whatever failed, and nothing else was
  done. -/
  attempts : ∃ attempts, Site.Attempts attempts closing after ∧
    (attempts.map Attempt.database).Perm databases
  /-- Each of them was closed once, and no other database was. -/
  once : ∃ order, order.Perm databases ∧ after.closings = began.closings ++ order
  /-- Their storages are closed too, whatever failed. -/
  emptied : ∀ database ∈ databases, ∀ cell ∈ database.storage.cells, after.records? cell = none
  empty : after.registry id = .empty
  /-- The files are those of the failure. -/
  files : after.files = failing.files

namespace RegistryId

variable {id : RegistryId} {began failing last after : Site} {done : List Database}
  {database : Database}

/-- Databases are released by one attempt for each of them that leaves their registry empty. -/
theorem Released.of_attempts {databases : List Database} {attempts : List Attempt}
    (idsDiffer : (databases.map Database.id).Nodup)
    (added : ∀ database ∈ databases, database.id.number < last.databases.next)
    (made : Site.Attempts attempts last after)
    (those : (attempts.map Attempt.database).Perm databases) (empty : after.registry id = .empty)
    (closings : last.closings = began.closings) (files : last.files = failing.files) :
    id.Released databases began failing last after := by
  have closes := made.closes fun attempt present =>
    added _ (those.mem_iff.mp (List.mem_map_of_mem present))
  refine ⟨idsDiffer, fun database present => ?_, ⟨attempts, made, those⟩, ⟨_, those, ?_⟩,
    fun database present cell own => ?_, empty, closes.files.trans files⟩
  · exact (closes.closed database.id).mpr
      (.inr (List.mem_map_of_mem (those.mem_iff.mpr present)))
  · rw [closes.closings, closings]
  · rw [closes.records?, if_pos]
    exact List.mem_flatMap.mpr ⟨database, those.mem_iff.mpr present, own⟩

/-- Closing all databases of a registry releases them. -/
theorem Owns.released (owns : id.Owns last done) (closings : last.closings = began.closings)
    (files : last.files = failing.files) :
    id.Released done began failing last (id.closeAll last).2 := by
  obtain ⟨empty, attempts, made, those⟩ := owns.closeAll
  exact .of_attempts owns.idsDiffer owns.added made those empty closings files

/-- And so does closing one more that was refused before. -/
theorem Owns.released_refused (owns : id.Owns failing done) (registry : database.registry = id)
    (other : database.id ∉ done.map Database.id)
    (added : database.id.number < failing.databases.next)
    (isOpen : database.isClosed failing = false) (closings : failing.closings = began.closings) :
    id.Released (done ++ [database]) began failing failing
      (id.closeAll (database.close failing).2).2 := by
  -- The refused database is closed first and leaves the one of its name in the registry.
  obtain ⟨empty, attempts, made, those⟩ := (owns.close_refused registry other added isOpen).closeAll
  have first : database.storage.close (database.leave failing) =
      ((database.close failing).1, (database.close failing).2) :=
    (Database.close_of_isOpen isOpen).symm
  have whole : Site.Attempts (⟨database, (database.close failing).1⟩ :: attempts) failing _ :=
    .cons isOpen first made
  refine .of_attempts (Database.idsDiffer_concat owns.idsDiffer other) ?_ whole ?_ empty closings
    rfl
  · exact List.forall_mem_append.mpr ⟨owns.added, List.forall_mem_singleton.mpr added⟩
  · exact (those.cons database).trans (List.perm_append_singleton database done).symm

end RegistryId

namespace Catalog.FailsAt

variable {catalog : Catalog} {id : RegistryId} {block : Section}
  {began start failing closing left : Site} {done : List Database} {refused : Option Database}
  {error : ConfigError}

/-- Failing at a section neither registers nor closes a database. -/
theorem spares (orderly : catalog.IsOrderly)
    (fails : catalog.FailsAt id block start refused error failing closing left) :
    Site.Spares start failing := by
  have spares := spares_build orderly id block start
  cases fails with
  | notBuilt failed => rwa [failed] at spares
  | noDatabase built => rwa [built] at spares
  | refused built _ => rwa [built] at spares

/-- What was registered is released, and so is the database that was refused. -/
theorem released (orderly : catalog.IsOrderly) (owns : id.Owns start done)
    (closings : start.closings = began.closings)
    (fails : catalog.FailsAt id block start refused error failing closing left) :
    id.Released (done ++ refused.toList) began failing closing (id.closeAll left).2 := by
  have spares := fails.spares orderly
  have ownsFailing := owns.of_spares spares
  have closingsFailing := spares.closings.trans closings
  cases fails with
  | notBuilt _ =>
    rw [Option.toList_none, List.append_nil]
    exact ownsFailing.released closingsFailing rfl
  | @noDatabase storage _ _ =>
    rw [Option.toList_none, List.append_nil]
    have sparesClosing := storage.spares_close failing
    exact (ownsFailing.of_spares sparesClosing).released
      (sparesClosing.closings.trans closingsFailing) (by rw [storage.close_frame])
  | refused built _ =>
    have isNew := isNew_of_orderly orderly built
    exact ownsFailing.released_refused isNew.registry (isNew.id_notMem owns.added) isNew.added
      (RegistryId.Owns.isOpen_of_isNew isNew spares) closingsFailing

end Catalog.FailsAt

/-- **A compilation that fails at one of its sections closes each database that it made, once, and
leaves its registry empty.** Its error is that of the section, whatever fails at closing. -/
theorem compile_error_released {catalog : Catalog} (orderly : catalog.IsOrderly) {text : String}
    {forest : List Section} {site after : Site} {error : ConfigError}
    (parsed : parse text = .ok forest) (valid : catalog.validateAll .database forest = .ok ())
    (failed : catalog.compile text site = (.error error, after)) :
    ∃ earlier block later done refused start failing closing left,
      forest = earlier ++ block :: later ∧
        catalog.buildDatabases site.addRegistry.1 earlier site.addRegistry.2 = (.ok done, start) ∧
        catalog.FailsAt site.addRegistry.1 block start refused error failing closing left ∧
        (refused.isSome → error.isValue = true) ∧
        site.addRegistry.1.Lists failing done ∧
        site.addRegistry.1.Released (done ++ refused.toList) site failing closing after := by
  rw [Catalog.compile_of_valid parsed valid] at failed
  have notBuilt := (bind_eq_error_iff.mp failed).resolve_right fun ⟨_, _, _, failed⟩ => by
    cases failed
  obtain ⟨earlier, block, later, done, start, left, isForest, built, failedAt, rfl⟩ :=
    Catalog.buildDatabases_eq_error notBuilt
  obtain ⟨owns, sameClosings⟩ := (RegistryId.Owns.addRegistry site).buildDatabases orderly built
  rw [List.nil_append] at owns
  have closings : start.closings = site.closings := sameClosings
  obtain ⟨refused, failing, closing, fails⟩ := Catalog.buildDatabase_eq_error failedAt
  refine ⟨earlier, block, later, done, refused, start, failing, closing, left, isForest, built,
    fails, fun isSome => ?_, (owns.of_spares (fails.spares orderly)).toLists,
    fails.released orderly owns closings⟩
  cases fails with
  | notBuilt _ => cases isSome
  | noDatabase _ => cases isSome
  | refused _ _ => rfl

/-- The built-in builders, and one of storages that fail to close. -/
def Catalog.withBrittle : Catalog :=
  Catalog.builtIn.register "brittle" (StandIn.faulty.builder .storage .none (.new true))

/-- Three databases, the last under the name of the first. -/
def brittleDatabases : String :=
  "<zodb main>\n<brittle/>\n</zodb>\n<zodb side>\n<mappingstorage/>\n</zodb>\n" ++
    "<zodb>\ndatabase-name main\n<brittle/>\n</zodb>\n"

/-- All three are closed, though the storages of two of them fail to when they are asked, and the
error is that of the third name. -/
theorem compile_error_released_brittle :
    ∃ forest after databases failing closing, parse brittleDatabases = .ok forest ∧
      Catalog.withBrittle.compile brittleDatabases {} =
        (.error (.build (.duplicateName "main")), after) ∧
      (databases.map Database.name).Perm ["main", "main", "side"] ∧
      after.history.count (.asked "custom") = 2 ∧
      (Site.addRegistry {}).1.Released databases {} failing closing after := by
  have orderly : Catalog.withBrittle.IsOrderly :=
    Catalog.isOrderly_builtIn.register (StandIn.faulty.isOrderly_builder _ _ _) "brittle"
  have checks : (parse brittleDatabases).toOption.map
      (fun forest => (Catalog.withBrittle.validateAll .database forest).toOption) =
        some (some ()) := by
    decide +kernel
  obtain ⟨forest, isForest, isValid⟩ := Option.map_eq_some_iff.mp checks
  have parsed := toOption_eq_some_iff.mp isForest
  have valid := toOption_eq_some_iff.mp isValid
  have fails : (match Catalog.withBrittle.compile brittleDatabases {} with
      | (.ok _, _) => none
      | (.error error, after) =>
        some (error, after.closings.map Database.name, after.history.count (.asked "custom"))) =
        some (.build (.duplicateName "main"), ["main", "main", "side"], 2) := by
    decide +kernel
  cases compiled : Catalog.withBrittle.compile brittleDatabases {} with
  | mk outcome after =>
    rw [compiled] at fails
    cases outcome with
    | ok topology => cases fails
    | error error =>
      obtain ⟨rfl, reported⟩ := Prod.mk.inj (Option.some.inj fails)
      obtain ⟨names, asked⟩ := Prod.mk.inj reported
      obtain ⟨_, _, _, done, refused, _, failing, closing, _, _, _, _, _, _, released⟩ :=
        compile_error_released orderly parsed valid compiled
      obtain ⟨order, same, closings⟩ := released.once
      refine ⟨forest, after, done ++ refused.toList, failing, closing, parsed, rfl, ?_, asked,
        released⟩
      rw [← names, closings]
      exact (same.map Database.name).symm

end StoreTopology

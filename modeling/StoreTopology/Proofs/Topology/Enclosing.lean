/-
**A text with one storage compiles as it does inside of a database.**

* `asDatabase`: a text between the tags of a database without a name;
* `Catalog.validate_databaseAround`: such a database is valid if the storage in it is;
* `Catalog.exists_buildDatabases_around`, `Catalog.buildDatabases_around_error`: it is built if the
  storage is, and fails as the storage does;
* `compile_asDatabase`: both ways of compiling the text give the same storage or the same kind of
  error, and leave the same files.
-/

import StoreTopology.Proofs.Database.Closing
import StoreTopology.Proofs.Topology.Compilation
import StoreTopology.Proofs.Topology.Moving
import StoreTopology.Proofs.Topology.Phases

namespace StoreTopology

open StoreTopology.Action

/-- The text of a database without a name over the storage of a text. -/
def asDatabase (text : String) : String := "<zodb>\n" ++ text ++ "\n</zodb>"

theorem asDatabase_eq (text : String) : asDatabase text = enclosed "zodb" text := by
  apply String.toList_inj.mp
  have around : (enclosed "zodb" text).toList = _ := String.toList_ofList
  rw [around, asDatabase, String.toList_append, String.toList_append, List.append_assoc]
  rfl

/-- What stands around a storage in its database. -/
def databaseAround (block : Section) (last : Nat) : Section :=
  ⟨"zodb", none, [], [block], 1, last⟩

/-! ### How two compilations agree -/

/-- A storage looks like another one, each on its own site. -/
structure Storage.LooksLike (storage : Storage) (site : Site) (other : Storage) (otherSite : Site) :
    Prop where
  name : other.name = storage.name
  isReadOnly : other.isReadOnly = storage.isReadOnly
  describe : other.describe = storage.describe
  keys : other.keys otherSite = storage.keys site
  load? : ∀ key, other.load? otherSite key = storage.load? site key

/-- A second error is of the kind of the first, and is told for the next line if that is told for
one. -/
structure ConfigError.SameKind (error other : ConfigError) : Prop where
  isSyntactic : other.isSyntactic = error.isSyntactic
  line? : other.line? = error.line?.map (· + 1)
  isValue : other.isValue = error.isValue
  storage : ∀ cause, other = .storage cause ↔ error = .storage cause

/-- The compilation of a storage agrees with that of a database over it. -/
structure EntriesAgree (storageRun : Except ConfigError Storage × Site)
    (databaseRun : Except ConfigError Topology × Site) : Prop where
  succeeds_iff : (∃ storage, storageRun.1 = .ok storage) ↔ ∃ topology, databaseRun.1 = .ok topology
  /-- The storage of the one database, which has no name, looks like the storage. -/
  storage : ∀ {storage topology}, storageRun.1 = .ok storage → databaseRun.1 = .ok topology →
    ∃ database, topology.databases = [database] ∧ database.name = "" ∧
      storage.LooksLike storageRun.2 database.storage databaseRun.2
  error : ∀ {error other}, storageRun.1 = .error error → databaseRun.1 = .error other →
    error.SameKind other
  files : databaseRun.2.files = storageRun.2.files

theorem ConfigError.sameKind_moved (error : ConfigError) : error.SameKind (error.moved 1) := by
  cases error with
  | malformed error => exact ⟨rfl, rfl, rfl, fun _ => by simp [moved]⟩
  | misplaced problem line => exact ⟨rfl, rfl, rfl, fun _ => by simp [moved]⟩
  | option problem => exact ⟨rfl, rfl, rfl, fun _ => by simp [moved]⟩
  | build problem => exact ⟨rfl, rfl, rfl, fun _ => Iff.rfl⟩
  | storage cause => exact ⟨rfl, rfl, rfl, fun _ => Iff.rfl⟩
  | unreadable path problem => exact ⟨rfl, rfl, rfl, fun _ => Iff.rfl⟩

/-! ### Storages on sites with the same stores -/

namespace Storage

variable {site otherSite : Site}

theorem cellRecords_of_sameStores (same : site.SameStores otherSite) (name : String)
    (cell : CellId) : cellRecords otherSite name cell = cellRecords site name cell := by
  unfold cellRecords Site.records?
  rw [same.cells]

theorem keys_of_sameStores (same : site.SameStores otherSite) (storage : Storage) :
    storage.keys otherSite = storage.keys site := by
  have cells := cellRecords_of_sameStores same
  induction storage with
  | mapping name cell => rw [Storage.keys, Storage.keys, cells]
  | memory name readOnly cell => rw [Storage.keys, Storage.keys, cells]
  | file settings cell => rw [Storage.keys, Storage.keys, cells]
  | demo name base changes ih => rw [Storage.keys, Storage.keys, cells, ih]
  | faulty name failing => rfl

theorem load?_of_sameStores (same : site.SameStores otherSite) (storage : Storage) (key : String) :
    storage.load? otherSite key = storage.load? site key := by
  have cells := cellRecords_of_sameStores same
  induction storage with
  | mapping name cell => rw [Storage.load?, Storage.load?, cells]
  | memory name readOnly cell => rw [Storage.load?, Storage.load?, cells]
  | file settings cell => rw [Storage.load?, Storage.load?, cells]
  | demo name base changes ih => rw [Storage.load?, Storage.load?, cells, ih]
  | faulty name failing => rfl

theorem looksLike_of_sameStores (same : site.SameStores otherSite) (storage : Storage) :
    storage.LooksLike site storage otherSite :=
  ⟨rfl, rfl, rfl, keys_of_sameStores same storage, load?_of_sameStores same storage⟩

end Storage

namespace EntriesAgree

variable {site otherSite : Site}

/-- Two compilations agree if both succeed with the same storage. -/
theorem of_ok {topology : Topology} {database : Database}
    (only : topology.databases = [database]) (name : database.name = "")
    (same : site.SameStores otherSite) :
    EntriesAgree (.ok database.storage, site) (.ok topology, otherSite) where
  succeeds_iff := ⟨fun _ => ⟨topology, rfl⟩, fun _ => ⟨database.storage, rfl⟩⟩
  storage := by
    rintro _ _ ⟨⟩ ⟨⟩
    exact ⟨database, only, name, Storage.looksLike_of_sameStores same _⟩
  error := by
    rintro _ _ ⟨⟩
  files := same.files

/-- Two compilations agree if both fail, the second one further down. -/
theorem of_error (error : ConfigError) (same : site.SameStores otherSite) :
    EntriesAgree (.error error, site) (.error (error.moved 1), otherSite) where
  succeeds_iff := by simp
  storage := by
    rintro _ _ ⟨⟩
  error := by
    rintro _ _ ⟨⟩ ⟨⟩
    exact error.sameKind_moved
  files := same.files

end EntriesAgree

/-! ### The database around a storage -/

theorem Builder.database_of_settings {name : Option String} {options : Options}
    {settings : DatabaseSettings} (settled : databaseSettings name options = .ok settings)
    (registry : RegistryId) (storage : Storage) (site : Site) :
    ∃ database after, Builder.database.build registry name options [.storage storage] site =
      (.ok (.database database), after) ∧ database.storage = storage ∧ site.SameStores after := by
  unfold database
  dsimp only
  rw [settled]
  exact ⟨_, _, rfl, rfl, rfl, rfl⟩

namespace Catalog

variable {registry : RegistryId} {block : Section} {last : Nat} {site between : Site}

theorem lookup?_zodb : builtIn.lookup? "zodb" = some Builder.database := by
  have isKnown : (builtIn.lookup? "zodb").map Builder.kind = some .database := by decide +kernel
  obtain ⟨builder, found, kind⟩ := Option.map_eq_some_iff.mp isKnown
  rw [found, eq_database_of_builtIn found kind]

/-- The database around a storage is valid if the storage is. -/
theorem validate_databaseAround (block : Section) (last : Nat) :
    validate builtIn .database (databaseAround block last) = validate builtIn .storage block := by
  rw [validate_eq]
  unfold resolve
  rw [show builtIn.lookup? (databaseAround block last).typeName = _ from lookup?_zodb]
  rfl

/-- A database section without options can be settled. -/
theorem exists_settings (block : Section) (last : Nat) :
    ∃ options settings, (Builder.database.schema.settle (databaseAround block last)).result =
      .ok options ∧ Builder.databaseSettings none options = .ok settings := by
  have settles : (OptionSchema.settleDefaults "zodb" 1 .empty Builder.databaseSchema.specs >>=
      Builder.databaseSettings none).toOption.isSome = true := by decide +kernel
  obtain ⟨settings, isSettings⟩ := Option.isSome_iff_exists.mp settles
  obtain ⟨options, coerced, settled⟩ := bind_eq_ok.mp (toOption_eq_some_iff.mp isSettings)
  exact ⟨options, settings, coerced, settled⟩

/-- If a storage is built, so is the database around it. -/
theorem exists_build_databaseAround {storage : Storage}
    (built : build builtIn registry block site = (.ok (.storage storage), between)) (last : Nat) :
    ∃ database after, build builtIn registry (databaseAround block last) site =
      (.ok (.database database), after) ∧ database.storage = storage ∧
        between.SameStores after := by
  obtain ⟨options, settings, coerced, settled⟩ := exists_settings block last
  have below : buildAll builtIn registry [block] site = (.ok [.storage storage], between) := by
    rw [buildAll, bind_of_ok built, buildAll]
    rfl
  have stores := sameStores_settleOptions Builder.database.schema (databaseAround block last) between
  have outcome := settleOptions_fst Builder.database.schema (databaseAround block last) between
  cases ran : settleOptions Builder.database.schema (databaseAround block last) between with
  | mk result before =>
    rw [ran, coerced] at outcome
    rw [ran] at stores
    cases outcome
    obtain ⟨database, after, isBuilt, isStorage, same⟩ :=
      Builder.database_of_settings settled registry storage
        (before.log .debug (ConfigError.atLine "Building <zodb>" 1))
    refine ⟨database, after, ?_, isStorage, ?_⟩
    · rw [build_of_lookup? (show builtIn.lookup? (databaseAround block last).typeName = _ from
        lookup?_zodb)]
      show (buildAll builtIn registry [block] >>= _) site = _
      rw [bind_of_ok below]
      exact (bind_of_ok ran).trans isBuilt
    · exact stores.trans ((before.sameStores_log _ _).trans same)

/-- The database around a storage is registered in an empty registry, under the empty text. -/
theorem exists_buildDatabases_around {storage : Storage} (nothing : registry.Lists site [])
    (built : build builtIn registry block site = (.ok (.storage storage), between)) (last : Nat) :
    ∃ database after, buildDatabases builtIn registry [databaseAround block last] site =
      (.ok [database], after) ∧ database.storage = storage ∧ database.name = "" ∧
        between.SameStores after := by
  obtain ⟨database, before, isBuilt, isStorage, same⟩ := exists_build_databaseAround built last
  have grows := (grows_build isFresh_builtIn registry _).of_ok isBuilt
  have free : (before.registry registry).contains database.name = false := by
    unfold SortedMap.contains
    rw [Option.isSome_eq_false_iff, Option.isNone_iff_eq_none, Option.eq_none_iff_forall_ne_some]
    intro other found
    have listed := (nothing.of_keeps (.of_same grows.registries)).get?_eq_some_iff.mp found
    exact List.not_mem_nil listed.1
  have registered := RegistryId.register_eq_ok_iff.mpr ⟨free, rfl⟩
  refine ⟨database, _, buildDatabases_cons_iff.mpr ⟨database, _, [],
    buildDatabase_eq_ok_iff.mpr ⟨before, isBuilt, registered⟩, rfl, rfl⟩, isStorage,
    name_of_build isBuilt, ?_⟩
  exact same.trans ⟨rfl, rfl⟩

/-- If a storage cannot be built, neither can the database around it, and nothing else happens. -/
theorem buildDatabases_around_error {error : ConfigError} (nothing : registry.Lists site [])
    (failed : build builtIn registry block site = (.error error, between)) (last : Nat) :
    buildDatabases builtIn registry [databaseAround block last] site = (.error error, between) := by
  have below : buildAll builtIn registry [block] site = (.error error, between) := by
    rw [buildAll, bind_of_error failed]
  have notBuilt : build builtIn registry (databaseAround block last) site =
      (.error error, between) := by
    rw [build_of_lookup? (show builtIn.lookup? (databaseAround block last).typeName = _ from
      lookup?_zodb)]
    exact bind_of_error below
  have refused : buildDatabase builtIn registry (databaseAround block last) site =
      (.error error, between) := by
    unfold buildDatabase
    exact bind_of_error notBuilt
  have grows := grows_build isFresh_builtIn registry (databaseAround block last) site
  rw [notBuilt] at grows
  have nobody : (between.registry registry).values = [] := by
    have entries := (nothing.of_keeps (.of_same grows.registries)).entries.eq_nil
    unfold SortedMap.values
    rw [entries, List.map_nil]
  have closes : registry.closeAll between = (.ok (), between) := by
    rw [RegistryId.closeAll_apply, nobody]
    rfl
  rw [buildDatabases, bind_of_ok (outcome_apply _), refused]
  show (Action.outcome registry.closeAll >>= _) between = _
  rw [bind_of_ok (outcome_apply _), closes]
  rfl

/-! ### Compilations -/

variable {text : String}

theorem checkStorage_of_parse (catalog : Catalog) (parsed : parse text = .ok [block]) :
    catalog.checkStorage text = (validate catalog .storage block).map fun _ => block := by
  unfold checkStorage
  rw [readSections_of_parse parsed]
  show (validate catalog .storage block >>= _) = _
  cases validate catalog .storage block with
  | ok _ => rfl
  | error error => rfl

theorem check_of_parse (catalog : Catalog) (parsed : parse text = .ok [block]) :
    catalog.check text = (validate catalog .database block).map fun _ => [block] := by
  unfold check
  rw [readSections_of_parse parsed]
  show (validate catalog .database block >>= _) >>= _ = _
  cases validate catalog .database block with
  | ok _ => rfl
  | error error => rfl

/-- A valid storage section builds a storage. -/
theorem exists_storage_of_build (valid : validate builtIn .storage block = .ok ()) {built : Built}
    (succeeded : build builtIn registry block site = (.ok built, between)) :
    ∃ storage, built = .storage storage := by
  obtain ⟨builder, _, _, _, _, found, _, _, _, isBuilt⟩ := build_eq_ok succeeded
  obtain ⟨other, otherFound, kind, _⟩ := validate_eq_ok_iff.mp valid
  cases found.symm.trans otherFound
  have isStorage := (kind_of_builtIn found isBuilt).trans kind
  cases built with
  | storage storage => exact ⟨storage, rfl⟩
  | database database => cases isStorage

/-- A valid storage agrees with the database around it, one line further down. -/
theorem assemble_around (valid : validate builtIn .storage block = .ok ()) (last : Nat)
    (site : Site) : EntriesAgree (builtIn.assembleStorage block site)
      (builtIn.assemble [databaseAround (block.moved 1) last] site) := by
  have nothing := RegistryId.Lists.addRegistry site
  unfold assembleStorage assemble
  rw [bind_of_ok (create_apply _), bind_of_ok (create_apply _)]
  have agrees : Agrees (ConfigError.moved 1) (build builtIn site.addRegistry.1 block)
    (build builtIn site.addRegistry.1 (block.moved 1)) := agrees_build valid
  obtain ⟨outcomes, same⟩ := agrees site.addRegistry.2 site.addRegistry.2 (Std.Refl.refl _)
  cases ran : build builtIn site.addRegistry.1 block site.addRegistry.2 with
  | mk outcome between =>
    cases otherRan : build builtIn site.addRegistry.1 (block.moved 1) site.addRegistry.2 with
    | mk otherOutcome otherBetween =>
      rw [ran, otherRan] at outcomes same
      cases outcomes
      cases outcome with
      | error error =>
        rw [bind_of_error ran, bind_of_error (buildDatabases_around_error nothing otherRan last)]
        exact .of_error error same
      | ok built =>
        obtain ⟨storage, rfl⟩ := exists_storage_of_build valid ran
        obtain ⟨database, after, isBuilt, rfl, name, stores⟩ :=
          exists_buildDatabases_around nothing otherRan last
        rw [bind_of_ok ran, bind_of_ok isBuilt]
        exact .of_ok rfl name (same.trans stores)

end Catalog

/-- **A text with one storage compiles as it does inside of a database**: to the same storage or the
same kind of error, with the same files left. -/
theorem compile_asDatabase {text : String} {block : Section} (parsed : parse text = .ok [block])
    (site : Site) : EntriesAgree (Catalog.builtIn.compileStorage text site)
      (Catalog.builtIn.compile (asDatabase text) site) := by
  have isType : Line.IsOwnName "zodb" := ⟨by decide +kernel, by decide +kernel⟩
  obtain ⟨last, parsedAround⟩ := exists_parse_enclosed isType parsed
  rw [← asDatabase_eq] at parsedAround
  have parsedDatabase : parse (asDatabase text) = .ok [databaseAround (block.moved 1) last] :=
    parsedAround
  rw [Catalog.compileStorage_eq, Catalog.compile_eq, Catalog.checkStorage_of_parse _ parsed,
    Catalog.check_of_parse _ parsedDatabase, Catalog.validate_databaseAround,
    Catalog.validate_moved]
  cases valid : Catalog.builtIn.validate .storage block with
  | error error => exact .of_error error (Std.Refl.refl site)
  | ok _ => exact Catalog.assemble_around valid last site

/-- A layer over records in memory. The name of the layer is defined before. -/
def layeredText : String :=
  "%define layer Changes\n<demostorage>\n  name $layer\n  <mappingstorage/>\n</demostorage>"

/-- The layer compiles in both ways, and is the same in both. -/
theorem compile_asDatabase_layered :
    ∃ block storage topology database, parse layeredText = .ok [block] ∧
      (Catalog.builtIn.compileStorage layeredText {}).1 = .ok storage ∧
      (Catalog.builtIn.compile (asDatabase layeredText) {}).1 = .ok topology ∧
      topology.databases = [database] ∧ storage.name = "Changes" ∧
      database.storage.name = "Changes" := by
  have reads : (parse layeredText).toOption.map List.length = some 1 := by decide +kernel
  obtain ⟨forest, isForest, single⟩ := Option.map_eq_some_iff.mp reads
  obtain ⟨block, rfl⟩ := List.length_eq_one_iff.mp single
  have parsed := toOption_eq_some_iff.mp isForest
  have agree := compile_asDatabase parsed {}
  have compiles : (Catalog.builtIn.compileStorage layeredText {}).1.toOption.map Storage.name =
      some "Changes" := by decide +kernel
  obtain ⟨storage, isStorage, name⟩ := Option.map_eq_some_iff.mp compiles
  have compiled := toOption_eq_some_iff.mp isStorage
  obtain ⟨topology, compiledDatabase⟩ := agree.succeeds_iff.mp ⟨storage, compiled⟩
  obtain ⟨database, only, _, looks⟩ := agree.storage compiled compiledDatabase
  exact ⟨block, storage, topology, database, parsed, compiled, compiledDatabase, only, name,
    looks.name.trans name⟩

end StoreTopology

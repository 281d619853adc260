/-
**A compilation that succeeds makes one database of each top-level section.**

* `RegistryId.Holds`: a registry holds just the given databases, which are new and open;
* `RegistryId.Holds.buildDatabases`: so it is after each of the top-level sections;
* `Section.databaseName`: the name of the database of a section;
* `compile_builtIn`: what a compilation with the built-in builders makes of a text.
-/

import StoreTopology.Proofs.Option.Settling
import StoreTopology.Proofs.Topology.Building

namespace StoreTopology

open StoreTopology.Action

/-! ### Registries of a compilation -/

/-- A registry holds just the given databases. They belong to it, each under its name, and are open
and without connections. -/
structure RegistryId.Holds (id : RegistryId) (site : Site) (databases : List Database) : Prop where
  allocated : id.number < site.registries.next
  entries : (site.registry id).entries.Perm
    (databases.map fun database => (database.name, database))
  idsDiffer : (databases.map Database.id).Nodup
  registry : ∀ database ∈ databases, database.registry = id
  added : ∀ database ∈ databases, database.id.number < site.databases.next
  isOpen : ∀ database ∈ databases, site.state database.id = {}

namespace RegistryId.Holds

variable {id : RegistryId} {site before after : Site} {database : Database}
  {done databases : List Database}

theorem lists (holds : id.Holds site done) : id.Lists site done := ⟨holds.allocated, holds.entries⟩

/-- A new registry holds nothing. -/
theorem addRegistry (site : Site) : site.addRegistry.1.Holds site.addRegistry.2 [] where
  allocated := (Lists.addRegistry site).allocated
  entries := (Lists.addRegistry site).entries
  idsDiffer := .nil
  registry := fun _ none => nomatch none
  added := fun _ none => nomatch none
  isOpen := fun _ none => nomatch none

theorem of_grows (holds : id.Holds site done) (grows : Site.Grows site after) :
    id.Holds after done where
  allocated := (holds.lists.of_keeps (.of_same grows.registries)).allocated
  entries := (holds.lists.of_keeps (.of_same grows.registries)).entries
  idsDiffer := holds.idsDiffer
  registry := holds.registry
  added := fun other present => Nat.lt_of_lt_of_le (holds.added other present) grows.next
  isOpen := fun other present => by rw [grows.state, holds.isOpen other present]

/-- A registry holds a new database after its registration. -/
theorem register (holds : id.Holds before done) (grows : Site.Grows before site)
    (isNew : database.IsNew id before site)
    (registered : id.register database site = (.ok (), after)) :
    id.Holds after (done ++ [database]) := by
  have grown := holds.of_grows grows
  have listed := grown.lists.register registered
  obtain ⟨free, rfl⟩ := register_eq_ok_iff.mp registered
  have other := isNew.id_notMem holds.added
  have isOpen : site.state database.id = {} := by
    rw [grows.state, Site.state_of_next_le isNew.notBefore]
  exact ⟨listed.allocated, listed.entries, Database.idsDiffer_concat grown.idsDiffer other,
    List.forall_mem_append.mpr ⟨grown.registry, List.forall_mem_singleton.mpr isNew.registry⟩,
    List.forall_mem_append.mpr ⟨grown.added, List.forall_mem_singleton.mpr isNew.added⟩,
    List.forall_mem_append.mpr ⟨grown.isOpen, List.forall_mem_singleton.mpr isOpen⟩⟩

variable {catalog : Catalog} {block : Section} {forest : List Section}

/-- A top-level section adds its database. -/
theorem buildDatabase (fresh : catalog.IsFresh) (holds : id.Holds site done)
    (succeeded : catalog.buildDatabase id block site = (.ok database, after)) :
    id.Holds after (done ++ [database]) := by
  obtain ⟨between, built, registered⟩ := Catalog.buildDatabase_eq_ok_iff.mp succeeded
  have grows := (Catalog.grows_build fresh id block).of_ok built
  exact holds.register grows (Catalog.isNew_of_build fresh built) registered

/-- Top-level sections add their databases. -/
theorem buildDatabases (fresh : catalog.IsFresh) (holds : id.Holds site done)
    (succeeded : catalog.buildDatabases id forest site = (.ok databases, after)) :
    id.Holds after (done ++ databases) := by
  induction forest generalizing site done databases with
  | nil =>
    cases succeeded
    rw [List.append_nil]
    exact holds
  | cons block rest ih =>
    obtain ⟨database, between, others, built, builtOthers, rfl⟩ :=
      Catalog.buildDatabases_cons_iff.mp succeeded
    have holdsAll := ih (holds.buildDatabase fresh built) builtOthers
    rw [List.append_assoc, List.singleton_append] at holdsAll
    exact holdsAll

end RegistryId.Holds

/-! ### Names of databases -/

/-- The name that a section gives its database: the last one among its options, else its own, else
the empty text. -/
def Section.databaseName (block : Section) : String :=
  ((block.value? "database-name").or block.name).getD ""

theorem databaseName_of_databaseSettings {name : Option String} {options : Options}
    {settings : DatabaseSettings} (settled : Builder.databaseSettings name options = .ok settings) :
    settings.databaseName = ((options.string? "database-name").or name).getD "" := by
  obtain ⟨_, _, settled⟩ := bind_eq_ok.mp settled
  obtain ⟨_, _, settled⟩ := bind_eq_ok.mp settled
  rw [← Except.ok.inj settled]

namespace Catalog

variable {text : String} {registry : RegistryId} {block : Section} {forest : List Section}
  {site after : Site} {databases : List Database}

theorem name_of_build {database : Database} (succeeded : builtIn.build registry block site =
      (.ok (.database database), after)) : database.name = block.databaseName := by
  obtain ⟨builder, below, options, _, _, found, _, _, settled, built⟩ := build_eq_ok succeeded
  cases eq_database_of_builtIn found (kind_of_builtIn found built).symm
  obtain ⟨storage, settings, _, isSettings, isBuilt, _⟩ := Builder.database_eq_ok built
  cases isBuilt
  have declared : Builder.databaseSchema.spec? "database-name" =
      some ⟨"database-name", .string, none, false⟩ := rfl
  unfold Section.databaseName
  rw [← OptionSchema.string?_of_settle declared rfl rfl settled]
  exact databaseName_of_databaseSettings isSettings

theorem names_of_buildDatabases (succeeded : builtIn.buildDatabases registry forest site =
      (.ok databases, after)) :
    databases.map Database.name = forest.map Section.databaseName := by
  induction forest generalizing site databases with
  | nil =>
    cases succeeded
    rfl
  | cons block rest ih =>
    obtain ⟨database, between, others, built, builtOthers, rfl⟩ :=
      buildDatabases_cons_iff.mp succeeded
    obtain ⟨_, isBuilt, _⟩ := buildDatabase_eq_ok_iff.mp built
    rw [List.map_cons, List.map_cons, name_of_build isBuilt, ih builtOthers]

/-- A compilation reads the sections of the text and builds their databases for a new registry. -/
theorem compile_eq_ok {catalog : Catalog} {topology : Topology}
    (compiled : catalog.compile text site = (.ok topology, after)) :
    ∃ forest, parse text = .ok forest ∧ topology.registry = site.addRegistry.1 ∧
      catalog.buildDatabases topology.registry forest site.addRegistry.2 =
        (.ok topology.databases, after) := by
  obtain ⟨forest, _, isRead, compiled⟩ := bind_eq_ok_iff.mp compiled
  obtain ⟨sections, rfl⟩ := Prod.mk.inj isRead
  obtain ⟨_, _, isValid, compiled⟩ := bind_eq_ok_iff.mp compiled
  obtain ⟨_, rfl⟩ := Prod.mk.inj isValid
  rw [bind_of_ok (create_apply _)] at compiled
  obtain ⟨databases, _, built, compiled⟩ := bind_eq_ok_iff.mp compiled
  cases compiled
  refine ⟨forest, ?_, rfl, built⟩
  unfold readSections at sections
  cases parsed : parse text with
  | ok blocks =>
    rw [parsed] at sections
    rw [Except.ok.inj sections]
  | error error =>
    rw [parsed] at sections
    cases sections

end Catalog

/-! ### Compilations that succeed -/

/-- A topology has one database for each top-level section, in a registry of its own. -/
structure Topology.IsBuilt (topology : Topology) (site : Site) (forest : List Section) : Prop where
  /-- The databases are in source order, each under the name that its section gives it. -/
  names : topology.databases.map Database.name = forest.map Section.databaseName
  namesDiffer : (topology.databases.map Database.name).Nodup
  idsDiffer : (topology.databases.map Database.id).Nodup
  /-- The registry holds them and nothing else. -/
  size : (site.registry topology.registry).size = forest.length
  get? : ∀ database ∈ topology.databases, topology.get? site database.name = some database
  listed : topology.registry.names site = (topology.databases.map Database.name).mergeSort
  registry : ∀ database ∈ topology.databases, database.registry = topology.registry
  /-- They are on the site, open and without connections. -/
  added : ∀ database ∈ topology.databases, database.id.number < site.databases.next
  isOpen : ∀ database ∈ topology.databases, database.isClosed site = false
  unconnected : ∀ database ∈ topology.databases, database.openConnections site = 0

namespace RegistryId.Holds

variable {id : RegistryId} {site : Site} {databases : List Database}

theorem names_perm (holds : id.Holds site databases) :
    (id.names site).Perm (databases.map Database.name) := by
  have keys := holds.entries.map Prod.fst
  rw [List.map_map] at keys
  exact keys

/-- A registry that holds databases lists their names in order. -/
theorem names_eq (holds : id.Holds site databases) :
    id.names site = (databases.map Database.name).mergeSort := by
  have sorted : (id.names site).Pairwise fun first second => decide (first ≤ second) = true :=
    (site.registry id).keys_sorted.imp fun less => decide_eq_true (Std.le_of_lt less)
  have mergeSorted : (databases.map Database.name).mergeSort.Pairwise
      fun first second => decide (first ≤ second) = true := by
    refine List.pairwise_mergeSort (fun first second third less later => ?_) ?_ _
    · exact decide_eq_true (Std.le_trans (of_decide_eq_true less) (of_decide_eq_true later))
    · intro first second
      rw [Bool.or_eq_true, decide_eq_true_iff, decide_eq_true_iff]
      exact Std.le_total
  refine List.Perm.eq_of_pairwise (fun first second _ _ less greater => ?_) sorted mergeSorted ?_
  · exact Std.le_antisymm (of_decide_eq_true less) (of_decide_eq_true greater)
  · exact holds.names_perm.trans (List.mergeSort_perm _ _).symm

theorem namesDiffer (holds : id.Holds site databases) : (databases.map Database.name).Nodup :=
  holds.names_perm.nodup_iff.mp (site.registry id).keys_nodup

/-- A registry that holds a database has it under its name. -/
theorem get?_eq (holds : id.Holds site databases) {database : Database}
    (present : database ∈ databases) : id.get? site database.name = some database :=
  holds.lists.get?_eq_some_iff.mpr ⟨present, rfl⟩

/-- A topology whose registry holds its databases, under the names that sections give them. -/
theorem isBuilt {topology : Topology} {forest : List Section}
    (holds : topology.registry.Holds site topology.databases)
    (names : topology.databases.map Database.name = forest.map Section.databaseName) :
    topology.IsBuilt site forest where
  names := names
  namesDiffer := holds.namesDiffer
  idsDiffer := holds.idsDiffer
  size := by
    have counts := congrArg List.length names
    have size := holds.entries.length_eq
    rw [List.length_map] at counts size
    rw [List.length_map] at counts
    exact size.trans counts
  get? := fun _ present => holds.get?_eq present
  listed := holds.names_eq
  registry := holds.registry
  added := holds.added
  isOpen := fun database present => by rw [Database.isClosed, holds.isOpen database present]
  unconnected := fun database present => by
    rw [Database.openConnections, holds.isOpen database present]

end RegistryId.Holds

/-- **A compilation with the built-in builders makes one database of each top-level section**, and
never succeeds if two of them give their databases the same name. -/
theorem compile_builtIn (text : String) (site : Site) :
    (∀ topology after, Catalog.builtIn.compile text site = (.ok topology, after) →
      ∃ forest, parse text = .ok forest ∧ topology.IsBuilt after forest) ∧
    ∀ forest, parse text = .ok forest → ¬ (forest.map Section.databaseName).Nodup →
      ∃ error after, Catalog.builtIn.compile text site = (.error error, after) := by
  have succeeds : ∀ topology after, Catalog.builtIn.compile text site = (.ok topology, after) →
      ∃ forest, parse text = .ok forest ∧ topology.IsBuilt after forest := by
    intro topology after compiled
    obtain ⟨forest, parsed, isNew, built⟩ := Catalog.compile_eq_ok compiled
    have nothing : topology.registry.Holds site.addRegistry.2 [] := by
      rw [isNew]
      exact .addRegistry site
    have holds := nothing.buildDatabases Catalog.isFresh_builtIn built
    rw [List.nil_append] at holds
    exact ⟨forest, parsed, holds.isBuilt (Catalog.names_of_buildDatabases built)⟩
  refine ⟨succeeds, fun forest parsed sameName => ?_⟩
  cases compiled : Catalog.builtIn.compile text site with
  | mk outcome after =>
    cases outcome with
    | error error => exact ⟨error, after, rfl⟩
    | ok topology =>
      obtain ⟨blocks, parsedBlocks, built⟩ := succeeds topology after compiled
      cases parsed.symm.trans parsedBlocks
      exact absurd (built.names ▸ built.namesDiffer) sameName

/-- A text with two databases, one of them named by its section and the other by an option. -/
def twoDatabases (name : String) : String :=
  "<zodb main>\n<mappingstorage/>\n</zodb>\n<zodb>\ndatabase-name " ++ name ++
    "\n<mappingstorage/>\n</zodb>\n"

/-- Two databases are made under different names, and none under the same. -/
theorem compile_builtIn_twoDatabases :
    (∃ topology after forest,
      Catalog.builtIn.compile (twoDatabases "other") {} = (.ok topology, after) ∧
        topology.IsBuilt after forest ∧
        topology.databases.map Database.name = ["main", "other"]) ∧
    ∃ error after, Catalog.builtIn.compile (twoDatabases "main") {} = (.error error, after) := by
  constructor
  · have succeeds : ((Catalog.builtIn.compile (twoDatabases "other") {}).1.toOption.map
        fun topology => topology.databases.map Database.name) = some ["main", "other"] := by
      decide +kernel
    obtain ⟨topology, isOk, names⟩ := Option.map_eq_some_iff.mp succeeds
    have compiled := toOption_eq_some_iff.mp isOk
    obtain ⟨forest, _, isBuilt⟩ := (compile_builtIn _ _).1 topology _ (Prod.ext compiled rfl)
    exact ⟨topology, _, forest, Prod.ext compiled rfl, isBuilt, names⟩
  · have reads : ((parse (twoDatabases "main")).toOption.map
        fun forest => forest.map Section.databaseName) = some ["main", "main"] := by
      decide +kernel
    obtain ⟨forest, parsed, names⟩ := Option.map_eq_some_iff.mp reads
    refine (compile_builtIn _ {}).2 forest (toOption_eq_some_iff.mp parsed) ?_
    rw [names]
    decide

end StoreTopology

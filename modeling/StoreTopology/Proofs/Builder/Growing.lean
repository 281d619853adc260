/-
**Building adds to a site and takes nothing away.**

* `Site.Admits`: a relation of sites holds of each of the steps that built-in builders take;
* `Catalog.within_builtIn`: then it holds of what they do as a whole;
* `Site.Grows`: no registry changes, and databases are only added;
* `Database.IsNew`: a database was added between two sites, for a registry;
* `Builder.IsFresh`: a builder lets sites grow, and the databases that it builds are new;
* `isFresh_builtIn`: the built-in builders are so;
* `kind_of_builtIn`: what they build is of the kind that they promise.
-/

import StoreTopology.Builder.BuiltIn
import StoreTopology.Proofs.Action

set_option linter.unusedSectionVars false

namespace StoreTopology

/-! ### Sites that grow -/

/-- The registries stay as they are, and so do the databases, apart from new ones that are open and
have no connections. -/
structure Site.Grows (before after : Site) : Prop where
  registries : after.registries = before.registries
  next : before.databases.next ≤ after.databases.next
  state : ∀ id, after.state id = before.state id

namespace Site

variable {before between after : Site}

instance : Std.Refl Site.Grows := ⟨fun _ => ⟨rfl, Nat.le_refl _, fun _ => rfl⟩⟩

theorem Grows.trans (first : Site.Grows before between) (second : Site.Grows between after) :
    Site.Grows before after where
  registries := second.registries.trans first.registries
  next := Nat.le_trans first.next second.next
  state := fun id => (second.state id).trans (first.state id)

instance : Trans Site.Grows Site.Grows Site.Grows := ⟨Grows.trans⟩

/-- A site grows if it has the same registries and databases after. -/
theorem Grows.of_same (registries : after.registries = before.registries)
    (databases : after.databases = before.databases) : Site.Grows before after where
  registries := registries
  next := Nat.le_of_eq (congrArg Table.next databases).symm
  state := fun id => by rw [Site.state, Site.state, databases]

/-- A number that no database has yet is the number of an open one without connections. -/
theorem state_of_next_le {site : Site} {id : DatabaseId} (above : site.databases.next ≤ id.number) :
    site.state id = {} := by
  unfold Site.state Table.get?
  rw [List.getElem?_eq_none above, Option.getD_none]

theorem grows_addDatabase (site : Site) :
    Site.Grows site { site with databases := site.databases.add {} } where
  registries := rfl
  next := by
    rw [Table.next_add]
    exact Nat.le_succ _
  state := fun id => by
    show ((site.databases.add {}).get? id.number).getD {} = site.state id
    rw [Table.get?_add]
    by_cases same : id.number = site.databases.next
    · rw [if_pos same, state_of_next_le (Nat.le_of_eq same.symm), Option.getD_some]
    · rw [if_neg same, Site.state]

/-- The relation holds before and after each of the steps that builders are made of. -/
structure Admits (related : Site → Site → Prop) : Prop where
  log : ∀ site level text, related site (site.log level text)
  files : ∀ (site : Site) files, related site { site with files }
  cell : ∀ (site : Site) records, related site (site.addCell records).2
  database : ∀ site : Site, related site { site with databases := site.databases.add {} }

theorem admits_grows : Admits Site.Grows where
  log := fun _ _ _ => .of_same rfl rfl
  files := fun _ _ => .of_same rfl rfl
  cell := fun _ _ => .of_same rfl rfl
  database := grows_addDatabase

end Site

open StoreTopology.Action

/-! ### New storages and databases -/

section Steps

variable {related : Site → Site → Prop} [Std.Refl related] [Trans related related related]
  {ε : Type}

theorem Storage.within_newMapping (admits : Site.Admits related) (name : String)
    (records : Records) : Within related (newMapping name records : Action ε Storage) :=
  .bind (fun site => admits.cell site records) fun _ => .pure _

theorem Storage.within_newDemo (admits : Site.Admits related) (name : Option String)
    (base : Storage) : Within related (newDemo name base : Action ε Storage) :=
  .bind (fun site => admits.cell site .empty) fun _ => .pure _

theorem Action.within_onFiles (admits : Site.Admits related)
    (f : FileTree → Except FileProblem Unit × FileTree) : Within related (onFiles f) :=
  fun site => admits.files site _

theorem Storage.within_openFile (admits : Site.Admits related) (settings : FileSettings) :
    Within related (openFile settings) := by
  have loads : Within related (loadFile settings.path) :=
    .bind (fun site => admits.log site _ _) fun _ => .bind (fun _ => Std.Refl.refl _) fun _ =>
      .ofExcept _
  have creates : Within related (createFile settings.path) :=
    .bind (fun site => admits.log site _ _) fun _ => .bind (within_onFiles admits _) fun _ =>
      .pure _
  have adds : ∀ records, Within related (do
      let cell ← create fun site => site.addCell records
      return .file settings cell : Action StoreError Storage) :=
    fun records => .bind (fun site => admits.cell site records) fun _ => .pure _
  refine .bind (fun _ => Std.Refl.refl _) fun site => ?_
  dsimp only
  split
  · split
    · exact .bind loads adds
    · exact fun _ => Std.Refl.refl _
  · split
    · exact .bind creates adds
    · exact .bind loads adds

theorem Builder.within_ensureDirectory (admits : Site.Admits related) (path : String)
    (mode : UInt32) : Within related (ensureDirectory path mode) :=
  .bind (fun site => admits.log site _ _) fun _ => .bind (within_onFiles admits _) fun _ =>
    within_onFiles admits _

theorem Database.within_create (admits : Site.Admits related) (storage : Storage)
    (settings : DatabaseSettings) (registry : RegistryId) :
    Within related (create storage settings registry : Action ε _) :=
  fun site => admits.database site

/-! ### Built-in builders -/

namespace Builder

variable {registry : RegistryId} {name : Option String} {options : Options} {children : List Built}

theorem within_mapping (admits : Site.Admits related) :
    Within related (mapping.build registry name options children) :=
  .bind (Storage.within_newMapping admits _ _) fun _ => .pure _

theorem within_file (admits : Site.Admits related) :
    Within related (file.build registry name options children) := by
  refine .bind (.ofExcept _) fun settings => ?_
  have opens : Within related (do
      let storage ← (Storage.openFile settings).mapError ConfigError.storage
      return Built.storage storage : Action ConfigError Built) :=
    .bind (.mapError (Storage.within_openFile admits settings)) fun _ => .pure _
  split
  · exact .bind (.mapError (within_ensureDirectory admits _ _)) fun _ => opens
  · exact opens

theorem within_demo (admits : Site.Admits related) :
    Within related (demo.build registry name options children) :=
  .bind (.ofExcept _) fun _ => .bind (Storage.within_newDemo admits _ _) fun _ => .pure _

theorem within_database (admits : Site.Admits related) :
    Within related (database.build registry name options children) :=
  .bind (.ofExcept _) fun _ => .bind (.ofExcept _) fun _ =>
    .bind (fun site => admits.log site _ _) fun _ =>
      .bind (Database.within_create admits _ _ _) fun _ => .pure _

end Builder

/-- The built-in builders by the types of their sections. -/
theorem Catalog.builtIn_cases {typeName : String} {builder : Builder}
    (found : builtIn.lookup? typeName = some builder) :
    Text.lowercased typeName = "mappingstorage" ∧ builder = .mapping ∨
      Text.lowercased typeName = "filestorage" ∧ builder = .file ∨
      Text.lowercased typeName = "demostorage" ∧ builder = .demo ∨
      Text.lowercased typeName = "zodb" ∧ builder = .database := by
  have present := SortedMap.mem_of_mem_ofList (SortedMap.mem_entries.mpr found)
  simpa only [List.mem_cons, Prod.mk.injEq, List.not_mem_nil, or_false] using present

theorem Catalog.mem_builtIn {typeName : String} {builder : Builder}
    (found : builtIn.lookup? typeName = some builder) :
    builder = .mapping ∨ builder = .file ∨ builder = .demo ∨ builder = .database :=
  (builtIn_cases found).imp And.right (.imp And.right (.imp And.right And.right))

/-- What holds of each step holds of the built-in builders. -/
theorem Catalog.within_builtIn (admits : Site.Admits related) {typeName : String}
    {builder : Builder} (found : builtIn.lookup? typeName = some builder) (registry : RegistryId)
    (name : Option String) (options : Options) (children : List Built) :
    Within related (builder.build registry name options children) := by
  rcases mem_builtIn found with rfl | rfl | rfl | rfl
  · exact Builder.within_mapping admits
  · exact Builder.within_file admits
  · exact Builder.within_demo admits
  · exact Builder.within_database admits

end Steps

/-! ### Fresh builders -/

/-- A database was added between two sites, for a registry. -/
structure Database.IsNew (registry : RegistryId) (before after : Site) (database : Database) :
    Prop where
  registry : database.registry = registry
  notBefore : before.databases.next ≤ database.id.number
  added : database.id.number < after.databases.next

namespace Database.IsNew

variable {registry : RegistryId} {earlier before after later : Site} {database : Database}

/-- What was added between two sites was added between sites further apart. -/
theorem extend (isNew : database.IsNew registry before after)
    (first : earlier.databases.next ≤ before.databases.next)
    (last : after.databases.next ≤ later.databases.next) :
    database.IsNew registry earlier later where
  registry := isNew.registry
  notBefore := Nat.le_trans first isNew.notBefore
  added := Nat.lt_of_lt_of_le isNew.added last

/-- A database that is created is new. -/
theorem create {storage : Storage} {settings : DatabaseSettings} {site : Site}
    (created : Database.create storage settings registry site =
      ((.ok database : Except ConfigError Database), after)) :
    database.IsNew registry site after := by
  cases created
  refine ⟨rfl, Nat.le_refl _, ?_⟩
  rw [Table.next_add]
  exact Nat.lt_succ_self _

/-- A new database is none of those that were there before. -/
theorem id_notMem {done : List Database} (isNew : database.IsNew registry before after)
    (added : ∀ other ∈ done, other.id.number < before.databases.next) :
    database.id ∉ done.map Database.id := by
  intro present
  obtain ⟨other, isDone, same⟩ := List.mem_map.mp present
  exact Nat.not_lt.mpr isNew.notBefore (same ▸ added other isDone)

end Database.IsNew

/-- A builder neither registers nor closes databases, and the databases that it builds are new and
belong to the registry that it is given. -/
structure Builder.IsFresh (builder : Builder) : Prop where
  grows : ∀ registry name options children,
    Within Site.Grows (builder.build registry name options children)
  isNew : ∀ {registry name options children site database after},
    builder.build registry name options children site = (.ok (.database database), after) →
      database.IsNew registry site after

/-- All builders of a catalog are fresh. -/
def Catalog.IsFresh (catalog : Catalog) : Prop :=
  ∀ typeName builder, catalog.lookup? typeName = some builder → builder.IsFresh

namespace Builder

variable {registry : RegistryId} {name : Option String} {options : Options} {children : List Built}
  {site after : Site} {built : Built}

/-! ### What the built-in builders build -/

theorem onlyStorage_eq_ok {storage : Storage} (only : onlyStorage children = .ok storage) :
    children = [.storage storage] := by
  unfold onlyStorage at only
  split at only
  · rw [Except.ok.inj only]
  · cases only

/-- A database is built over the one storage, with the next number. -/
theorem database_eq_ok
    (succeeded : database.build registry name options children site = (.ok built, after)) :
    ∃ storage settings, children = [.storage storage] ∧
      databaseSettings name options = .ok settings ∧
      built = .database ⟨⟨site.databases.next⟩, storage, settings, registry⟩ ∧
      after.databases = site.databases.add {} := by
  obtain ⟨storage, _, only, succeeded⟩ := bind_eq_ok_iff.mp succeeded
  obtain ⟨isOnly, rfl⟩ := Prod.mk.inj only
  obtain ⟨settings, _, settles, succeeded⟩ := bind_eq_ok_iff.mp succeeded
  obtain ⟨settled, rfl⟩ := Prod.mk.inj settles
  cases succeeded
  refine ⟨storage, settings, onlyStorage_eq_ok isOnly, ?_, rfl, rfl⟩
  cases coerced : databaseSettings name options with
  | ok value =>
    rw [coerced] at settled
    rw [Except.ok.inj settled]
  | error problem =>
    rw [coerced] at settled
    cases settled

theorem isStorage_of_mapping
    (succeeded : mapping.build registry name options children site = (.ok built, after)) :
    built.kind = .storage := by
  obtain ⟨storage, _, _, succeeded⟩ := bind_eq_ok_iff.mp succeeded
  cases succeeded
  rfl

theorem isStorage_of_file
    (succeeded : file.build registry name options children site = (.ok built, after)) :
    built.kind = .storage := by
  obtain ⟨settings, between, _, succeeded⟩ := bind_eq_ok_iff.mp succeeded
  have opens : ∀ before, (do
      let storage ← (Storage.openFile settings).mapError ConfigError.storage
      return Built.storage storage : Action ConfigError Built) before = (.ok built, after) →
        built.kind = .storage := by
    intro before opened
    obtain ⟨storage, _, _, opened⟩ := bind_eq_ok_iff.mp opened
    cases opened
    rfl
  cases directory : settings.blobDirectory with
  | none =>
    rw [directory] at succeeded
    exact opens between succeeded
  | some path =>
    rw [directory] at succeeded
    obtain ⟨_, before, _, succeeded⟩ := bind_eq_ok_iff.mp succeeded
    exact opens before succeeded

theorem isStorage_of_demo
    (succeeded : demo.build registry name options children site = (.ok built, after)) :
    built.kind = .storage := by
  obtain ⟨base, _, _, succeeded⟩ := bind_eq_ok_iff.mp succeeded
  obtain ⟨storage, _, _, succeeded⟩ := bind_eq_ok_iff.mp succeeded
  cases succeeded
  rfl

end Builder

namespace Catalog

variable {typeName : String} {builder : Builder}

/-- What the built-in builders build is of the kind that they promise. -/
theorem kind_of_builtIn (found : builtIn.lookup? typeName = some builder) {registry : RegistryId}
    {name : Option String} {options : Options} {children : List Built} {site after : Site}
    {built : Built} (succeeded : builder.build registry name options children site =
      (.ok built, after)) : built.kind = builder.kind := by
  rcases mem_builtIn found with rfl | rfl | rfl | rfl
  · exact Builder.isStorage_of_mapping succeeded
  · exact Builder.isStorage_of_file succeeded
  · exact Builder.isStorage_of_demo succeeded
  · obtain ⟨storage, settings, _, _, rfl, _⟩ := Builder.database_eq_ok succeeded
    rfl

/-- Of the built-in builders, one builds databases. -/
theorem eq_database_of_builtIn (found : builtIn.lookup? typeName = some builder)
    (kind : builder.kind = .database) : builder = .database := by
  rcases mem_builtIn found with rfl | rfl | rfl | rfl
  · cases kind
  · cases kind
  · cases kind
  · rfl

theorem isFresh_builtIn : builtIn.IsFresh := by
  intro typeName builder found
  constructor
  · exact within_builtIn Site.admits_grows found
  · intro registry name options children site database after succeeded
    cases eq_database_of_builtIn found (kind_of_builtIn found succeeded).symm
    obtain ⟨storage, settings, _, _, isBuilt, databases⟩ := Builder.database_eq_ok succeeded
    cases isBuilt
    refine ⟨rfl, Nat.le_refl _, ?_⟩
    rw [databases, Table.next_add]
    exact Nat.lt_succ_self _

end Catalog

end StoreTopology

/-
**Descriptions determine what is described.**

* `Json.within?`: the value that a path of member names leads to;
* `Storage.below?`: the storage under a number of demo storages;
* `Storage.within?_describe`: descriptions of storages nest as the storages do;
* `Topology.describe_isFaithful`: settings are read back from the descriptions of their databases and
  file storages, and the description of a topology holds those of all its databases and storages.
-/

import StoreTopology.Proofs.Settings.Description
import StoreTopology.Proofs.Topology.Compilation

namespace StoreTopology

/-- The value to which the names of members lead, from the outermost on. -/
def Json.within? : List String → Json → Option Json
  | [], json => some json
  | name :: names, json => (json.member? name).bind (within? names)

namespace Storage

/-- The storage that a demo storage lays its changes over. -/
def base? : Storage → Option Storage
  | demo _ base _ => some base
  | mapping _ _ | memory _ _ _ | file _ _ | faulty _ _ => none

/-- The storage under a number of demo storages. -/
def below? : Nat → Storage → Option Storage
  | 0, storage => some storage
  | depth + 1, storage => storage.base?.bind (below? depth)

/-! ### Descriptions of storages -/

/-- The description of a storage has that of its base, if it has one. -/
theorem member?_describe (storage : Storage) :
    storage.describe.member? "base" = storage.base?.map describe := by
  cases storage with
  | demo name base changes =>
    refine (Json.member?_ofMembers (by simp)).mpr ?_
    simp
  | mapping name cell => exact Json.member?_ofMembers_eq_none (by simp) (by simp)
  | memory name readOnly cell => exact Json.member?_ofMembers_eq_none (by simp) (by simp)
  | faulty name failing => exact Json.member?_ofMembers_eq_none (by simp) (by simp)
  | file settings cell =>
    refine Json.member?_ofMembers_eq_none ?_ ?_ <;> simp [FileSettings.members]

/-- Descriptions of storages nest as the storages do. -/
theorem within?_describe (storage : Storage) (depth : Nat) :
    storage.describe.within? (List.replicate depth "base") =
      (storage.below? depth).map describe := by
  induction depth generalizing storage with
  | zero => rfl
  | succ depth ih =>
    rw [List.replicate_succ, Json.within?, member?_describe, below?]
    cases storage.base? with
    | none => rfl
    | some base => exact ih base

end Storage

/-! ### Descriptions of databases -/

namespace Database

theorem memberNames_nodup (database : Database) :
    ((database.settings.members ++ [("storage", database.storage.describe)]).map
      Prod.fst).Nodup := by
  simp [DatabaseSettings.members]

theorem member?_describe (database : Database) :
    database.describe.member? "storage" = some database.storage.describe := by
  rw [describe, Json.member?_ofMembers database.memberNames_nodup]
  exact List.mem_append_right _ (List.mem_singleton.mpr rfl)

end Database

/-! ### Descriptions of topologies -/

/-- The description of a topology holds those of its databases and of their storages. -/
structure Topology.IsDescribed (topology : Topology) : Prop where
  /-- There is one member for each database, under its name. -/
  members : ∃ members, topology.describe = .object [("databases", .object members)] ∧
    members.Perm (topology.databases.map fun database => (database.name, database.describe)) ∧
    (members.map Prod.fst).Nodup
  databases : ∀ database ∈ topology.databases,
    topology.describe.within? ["databases", database.name] = some database.describe
  /-- The storage of a database is described in it, and so is each storage below. -/
  storages : ∀ database ∈ topology.databases, ∀ depth,
    topology.describe.within?
        ("databases" :: database.name :: "storage" :: List.replicate depth "base") =
      (database.storage.below? depth).map Storage.describe

namespace Topology

variable {topology : Topology}

/-- A topology whose databases have different names is described. -/
theorem isDescribed (differ : (topology.databases.map Database.name).Nodup) :
    topology.IsDescribed := by
  have names : ((topology.databases.map fun database =>
      (database.name, database.describe)).map Prod.fst).Nodup := by
    rw [List.map_map]
    exact differ
  have found : ∀ database ∈ topology.databases, ∀ names,
      topology.describe.within? ("databases" :: database.name :: names) =
        database.describe.within? names := by
    intro database present path
    have isMember := (Json.member?_ofMembers names).mpr (List.mem_map_of_mem present)
    have isOuter : topology.describe.member? "databases" = some _ := rfl
    rw [Json.within?, isOuter, Option.bind_some, Json.within?, isMember, Option.bind_some]
  refine ⟨⟨_, rfl, SortedMap.entries_ofList_perm names, SortedMap.keys_nodup _⟩, ?_, ?_⟩
  · exact fun database present => found database present []
  · intro database present depth
    rw [found database present, Json.within?, Database.member?_describe, Option.bind_some,
      Storage.within?_describe]

/-- **Descriptions determine what is described.** The settings of a database are read back from its
description, and those of a file storage from its own. The description of a topology that a
compilation made holds those of its databases and of all their storages. -/
theorem describe_isFaithful :
    (∀ database : Database, DatabaseSettings.ofJson database.describe = .ok database.settings) ∧
    (∀ settings cell, FileSettings.ofJson (Storage.file settings cell).describe = .ok settings) ∧
    ∀ text site topology after, Catalog.builtIn.compile text site = (.ok topology, after) →
      topology.IsDescribed := by
  refine ⟨fun database => ?_, fun settings cell => ?_, fun text site topology after compiled => ?_⟩
  · exact database.settings.ofJson_ofMembers database.memberNames_nodup
  · refine settings.ofJson_ofMembers ?_
    simp [FileSettings.members]
  · obtain ⟨forest, _, isNew, built⟩ := Catalog.compile_eq_ok compiled
    have nothing : topology.registry.Holds site.addRegistry.2 [] := by
      rw [isNew]
      exact .addRegistry site
    exact isDescribed (nothing.buildDatabases Catalog.isFresh_builtIn built).namesDiffer

/-- A text with a database over two demo storages, the lower one over a file storage. -/
def layeredText : String :=
  "<zodb main>\npool-timeout 20s\n<demostorage upper>\n<demostorage lower>\n<filestorage>\n" ++
    "path data\nblob-dir blobs\n</filestorage>\n</demostorage>\n</demostorage>\n</zodb>\n"

/-- The settings of that file storage. -/
def layeredSettings : FileSettings := { path := "data", blobDirectory := some "blobs" }

/-- The settings of the lowest storage are read back from the description of the topology. -/
theorem describe_isFaithful_layered :
    ∃ topology after described, Catalog.builtIn.compile layeredText {} = (.ok topology, after) ∧
      topology.describe.within? ["databases", "main", "storage", "base", "base"] =
        some described ∧
      FileSettings.ofJson described = .ok layeredSettings := by
  have succeeds : ((Catalog.builtIn.compile layeredText {}).1.toOption.map fun topology =>
        topology.databases.map fun database => (database.name, database.storage)) =
      some [("main", .demo "upper" (.demo "lower" (.file layeredSettings ⟨0⟩) ⟨1⟩) ⟨2⟩)] := by
    decide +kernel
  obtain ⟨topology, isOk, storages⟩ := Option.map_eq_some_iff.mp succeeds
  have compiled : Catalog.builtIn.compile layeredText {} =
      (.ok topology, (Catalog.builtIn.compile layeredText {}).2) := by
    rw [← toOption_eq_some_iff.mp isOk]
  obtain ⟨database, isOnly, isDatabase⟩ := List.map_eq_singleton_iff.mp storages
  obtain ⟨name, storage⟩ := Prod.mk.inj isDatabase
  have isDescribed := describe_isFaithful.2.2 _ _ _ _ compiled
  have found := isDescribed.storages database (isOnly ▸ List.mem_singleton.mpr rfl) 2
  rw [name, storage] at found
  exact ⟨topology, _, _, compiled, found, describe_isFaithful.2.1 layeredSettings ⟨0⟩⟩

end Topology

end StoreTopology

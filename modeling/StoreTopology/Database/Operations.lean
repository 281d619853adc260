/-
**Operations of databases and registries.**

* `Database.create`: a new database, which is open and in no registry;
* `Database.close`: takes a database out of its registry and closes its storage, once;
* `RegistryId.register`: puts a database under its name, if no other has it;
* `RegistryId.closeAll`: closes all databases of a registry, whatever fails.
-/

import StoreTopology.Storage.Operations

namespace StoreTopology

namespace Database

/-- A new database over a storage. -/
def create {ε : Type} (storage : Storage) (settings : DatabaseSettings) (registry : RegistryId) :
    Action ε Database :=
  Action.create fun site =>
    (⟨⟨site.databases.next⟩, storage, settings, registry⟩,
      { site with databases := site.databases.add {} })

def isClosed (site : Site) (database : Database) : Bool := (site.state database.id).closed

/-- The connections that are open. -/
def openConnections (site : Site) (database : Database) : Nat :=
  (site.state database.id).openConnections

/-- The names of all databases in the registry of the database. -/
def siblings (site : Site) (database : Database) : List String :=
  (site.registry database.registry).keys

/-- Take a database out of its registry, unless another one is there under its name. -/
def leaveRegistry (database : Database) (site : Site) : Site :=
  let registry := site.registry database.registry
  match registry.get? database.name with
  | some registered =>
    if registered.id = database.id then
      site.setRegistry database.registry (registry.erase database.name)
    else site
  | none => site

/-- Close a database and its storage. A closed one stays as it is. -/
def close (database : Database) : Action StoreError Unit := do
  let site ← Action.site
  if database.isClosed site then return
  .change fun site =>
    site.setState database.id { site.state database.id with closed := true }
  .change fun site => site.remember (.closing database)
  .log .debug ("Closing database '" ++ database.name ++ "'...")
  .change database.leaveRegistry
  database.storage.close

end Database

namespace RegistryId

/-- Put a database under its name. -/
def register (id : RegistryId) (database : Database) : Action StoreError Unit := do
  let site ← Action.site
  if (site.registry id).contains database.name then throw (.duplicateDatabase database.name)
  .log .info ("Registered database '" ++ database.name ++ "'")
  .change fun site => site.setRegistry id ((site.registry id).insert database.name database)

/-- The database under a name. -/
def get? (site : Site) (id : RegistryId) (name : String) : Option Database :=
  (site.registry id).get? name

def names (site : Site) (id : RegistryId) : List String := (site.registry id).keys

/-- Close databases in turn. The first failure is kept, and the others are closed nevertheless. -/
def closeEach : List Database → Action StoreError Unit
  | [] => pure ()
  | database :: rest => fun site =>
    match database.close site with
    | (.ok (), after) => closeEach rest after
    | (.error first, after) => (.error first, (closeEach rest after).2)

/-- Close all databases of a registry in the order of their names. -/
def closeAll (id : RegistryId) : Action StoreError Unit := do
  let site ← Action.site
  closeEach (site.registry id).values

end RegistryId

end StoreTopology

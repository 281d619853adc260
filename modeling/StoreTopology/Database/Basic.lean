/-
**Databases.**

A database is a storage under a name, with settings, and the registry that it shares with the other
databases built together. Whether it is open and how many connections it has changes, and is
kept by the site under the number of the database.
-/

import StoreTopology.Settings.Database
import StoreTopology.Storage.Basic

namespace StoreTopology

/-- The number of a database. -/
structure DatabaseId where
  number : Nat
deriving DecidableEq, Repr

/-- The number of a registry. -/
structure RegistryId where
  number : Nat
deriving DecidableEq, Repr

structure Database where
  id : DatabaseId
  storage : Storage
  settings : DatabaseSettings
  /-- The registry shared with the databases built together. -/
  registry : RegistryId
deriving DecidableEq

namespace Database

def name (database : Database) : String := database.settings.databaseName

/-- The database and its storage as a value. -/
def describe (database : Database) : Json :=
  .ofMembers (database.settings.members ++ [("storage", database.storage.describe)])

end Database

/-- What changes of a database. -/
structure DatabaseState where
  openConnections : Nat := 0
  closed : Bool := false
deriving DecidableEq, Repr

/-- Databases under their names. -/
abbrev Registry := SortedMap String Database

end StoreTopology

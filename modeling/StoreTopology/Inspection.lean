/-
**One-line texts for looking at databases and catalogs.**

Each text says what kind of thing it is and then gives its parts in braces. Names of databases,
storages and section types stand between quotes.
-/

import StoreTopology.Text.Quoted
import StoreTopology.Topology

namespace StoreTopology

/-- Parts in square brackets. -/
def listText (parts : List String) : String := "[" ++ String.intercalate ", " parts ++ "]"

/-- Names, quoted, in square brackets. -/
def namesText (names : List String) : String := listText (names.map Text.quoted)

/-- A thing with its parts, by name, in braces. -/
def thingText (thing : String) (parts : List (String × String)) : String :=
  thing ++ " \x7b " ++ String.intercalate ", " (parts.map fun part => part.1 ++ ": " ++ part.2) ++
    " \x7d"

namespace Database

def inspect (database : Database) : String :=
  thingText "Database" [("database_name", Text.quoted database.name),
    ("storage", Text.quoted database.storage.name),
    ("xrefs", Json.boolText database.settings.crossReferences)]

end Database

namespace RegistryId

def inspect (site : Site) (registry : RegistryId) : String :=
  thingText "DatabaseRegistry" [("names", namesText (registry.names site))]

end RegistryId

namespace Topology

def inspect (site : Site) (topology : Topology) : String :=
  thingText "Topology" [("databases", listText (topology.databases.map Database.inspect)),
    ("registry", topology.registry.inspect site)]

end Topology

namespace Catalog

def inspect (catalog : Catalog) : String :=
  thingText "BuilderRegistry" [("types", namesText catalog.types)]

end Catalog

end StoreTopology

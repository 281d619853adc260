/-
**Stand-in builders.**

A stand-in takes the place of a real builder in trials of a compilation. Its shape is free, and so
is what it does when it is called. It names what it builds by the option `label`, else by the
section, else `custom`.
-/

import StoreTopology.Builder.Basic
import StoreTopology.Database.Operations

namespace StoreTopology

/-- What a stand-in does when it is called. -/
inductive StandIn where
  /-- It builds a mapping storage. -/
  | mapping
  /-- It hands on what its first nested section built, else it builds a mapping storage. -/
  | pass
  /-- It builds a database over its nested storage, else over a mapping storage. -/
  | database
  /-- It hands on the storage of its nested database, else it builds a mapping storage. -/
  | unwrap
  /-- It builds a storage that fails to close. -/
  | faulty
  /-- It fails as a read-only storage does. -/
  | readOnly
  /-- It fails with the number of databases that are registered. -/
  | fail
deriving DecidableEq, Repr

namespace StandIn

/-- The name of what a stand-in builds. -/
def label (name : Option String) (options : Options) : String :=
  ((options.string? "label").or name).getD "custom"

/-- What a stand-in does for a section. -/
def build (standIn : StandIn) (registry : RegistryId) (name : Option String) (options : Options)
    (children : List Built) : Action ConfigError Built := do
  let label := label name options
  match standIn, children with
  | .pass, child :: _ => return child
  | .unwrap, .database inner :: _ => return .storage inner.storage
  | .mapping, _ | .pass, [] | .unwrap, _ => return .storage (← Storage.newMapping label .empty)
  | .database, .storage inner :: _ =>
    return .database (← Database.create inner { databaseName := label } registry)
  | .database, _ =>
    let inner ← Storage.newMapping label .empty
    return .database (← Database.create inner { databaseName := label } registry)
  | .faulty, _ => return .storage (.faulty label [.close])
  | .readOnly, _ => throw (.storage (.readOnly label))
  | .fail, _ =>
    let site ← Action.site
    throw (.build (.other
      (toString (site.registry registry).size ++ " databases before failing")))

/-- A builder that does what a stand-in does. -/
def builder (standIn : StandIn) (kind : SectionKind) (children : ChildShape)
    (schema : OptionSchema) : Builder where
  kind := kind
  children := children
  schema := schema
  build := standIn.build

end StandIn

end StoreTopology

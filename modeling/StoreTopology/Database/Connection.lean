/-
**Connections.**

A connection is a view of one database. Its writes are pending until a commit gives them to the
storage; until then no one else sees them.

* `get?`, `root`: what the connection sees, its pending writes over the stored records;
* `commit`: writes all that is pending, or fails and keeps it pending;
* `Connection.release`: one open connection less.
-/

import StoreTopology.Database.Operations

namespace StoreTopology

structure Connection where
  database : Database
  pending : Records
deriving DecidableEq

/-- Open a connection on a database that is not closed. More connections than the pool size only
give a warning. -/
def Database.connect (database : Database) : Action StoreError Connection := do
  let site ← Action.site
  if database.isClosed site then throw (.closed database.storage.name)
  let count := database.openConnections site + 1
  .change fun site =>
    site.setState database.id { site.state database.id with openConnections := count }
  if database.settings.poolSize.toNat < count then
    .log .warn ("database '" ++ database.name ++ "' has " ++ toString count ++
      " open connections, exceeding pool-size " ++ toString database.settings.poolSize.toNat)
  return ⟨database, .empty⟩

namespace Connection

/-- Count a connection as no longer open. -/
def release (connection : Connection) (site : Site) : Site :=
  let state := site.state connection.database.id
  site.setState connection.database.id
    { state with openConnections := state.openConnections - 1 }

/-- The record under a key, pending or stored. -/
def get? (site : Site) (connection : Connection) (key : String) :
    Except StoreError (Option Record) :=
  match connection.pending.get? key with
  | some record => .ok (some record)
  | none => connection.database.storage.load? site key

/-- The stored records of some keys. -/
def loadEach (site : Site) (storage : Storage) : List String → Except StoreError Records
  | [] => .ok .empty
  | key :: rest => do
    let found ← storage.load? site key
    let records ← loadEach site storage rest
    match found with
    | some record => return records.insert key record
    | none => return records

/-- All records that the connection sees. -/
def root (site : Site) (connection : Connection) : Except StoreError Records := do
  let keys ← connection.database.storage.keys site
  let stored ← loadEach site connection.database.storage keys
  return stored.overlay connection.pending

def hasPending (connection : Connection) : Bool := !connection.pending.isEmpty

/-- Let a record wait for the next commit. -/
def set (connection : Connection) (key : String) (record : Record) : Connection :=
  { connection with pending := connection.pending.insert key record }

/-- Forget what is pending. -/
def abort (connection : Connection) : Connection := { connection with pending := .empty }

/-- Write what is pending. -/
def commit (connection : Connection) : Action StoreError Connection := do
  if connection.pending.isEmpty then return connection
  .log .debug ("Committing " ++ toString connection.pending.size ++
    " record(s) to database '" ++ connection.database.name ++ "'...")
  connection.database.storage.store connection.pending
  return connection.abort

end Connection

end StoreTopology

/-
**Why an operation on storages, databases or connections fails.**
-/

import StoreTopology.FileTree.Problem
import StoreTopology.Json.Problem
import StoreTopology.Settings.Decoding

namespace StoreTopology

/-- The operations of a storage that a stand-in can be told to fail. -/
inductive StorageOperation where
  | load
  | store
  | keys
  | close
deriving DecidableEq, Repr

def StorageOperation.name : StorageOperation → String
  | load => "load"
  | store => "store"
  | keys => "keys"
  | close => "close"

/-- What is wrong with the data of a storage. -/
inductive Corruption where
  /-- A data file holds another value than an object. -/
  | notObject (found : Json)
  /-- An operation fails because it was told to. -/
  | failed (operation : StorageOperation)
deriving DecidableEq

def Corruption.message : Corruption → String
  | notObject found => "expected a JSON object, found " ++ found.canonical.compact
  | failed operation => operation.name ++ " failed"

/-- Why an operation fails. -/
inductive StoreError where
  | readOnly (storage : String)
  | duplicateDatabase (name : String)
  | closed (storage : String)
  | quotaExceeded (storage : String) (quota : UInt64) (size : Nat)
  | corrupt (storage : String) (problem : Corruption)
  | files (problem : FileProblem)
  /-- A data file is no JSON text. -/
  | unreadable (error : ReadError)
  /-- A value describes no settings. -/
  | undecodable (problem : DecodeProblem)
deriving DecidableEq

namespace StoreError

def message : StoreError → String
  | readOnly storage => "storage '" ++ storage ++ "' is read-only"
  | duplicateDatabase name => "database_name '" ++ name ++ "' already in databases"
  | closed storage => "storage '" ++ storage ++ "' is closed"
  | quotaExceeded storage quota size =>
    "storage '" ++ storage ++ "' quota of " ++ toString quota.toNat ++ " bytes exceeded (" ++
      toString size ++ " bytes)"
  | corrupt storage problem => "storage '" ++ storage ++ "' is corrupt: " ++ problem.message
  | files problem => "io error: " ++ problem.message
  | unreadable error => "serialization error: " ++ error.message
  | undecodable problem => "serialization error: " ++ problem.message

/-- The operation needed to write, and the storage does not. -/
def isReadOnly : StoreError → Bool
  | readOnly _ => true
  | _ => false

end StoreError

end StoreTopology

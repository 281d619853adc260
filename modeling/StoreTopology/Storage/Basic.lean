/-
**Storages.**

A storage keeps records under keys. What it is does not change: its records are in a memory cell,
which closing empties for good.

* a mapping or memory storage has nothing but its cell; a memory storage may be read-only;
* a file storage writes its records to a data file as well;
* a demo storage lays the changes in its own cell over a base that it never changes;
* a faulty storage stands in for others in trials: it keeps nothing, and fails on demand.
-/

import StoreTopology.Settings.File
import StoreTopology.Storage.Problem

namespace StoreTopology

/-- The number of a memory cell. -/
structure CellId where
  number : Nat
deriving DecidableEq, Repr

inductive Storage where
  | mapping (name : String) (cell : CellId)
  | memory (name : String) (readOnly : Bool) (cell : CellId)
  | file (settings : FileSettings) (cell : CellId)
  | demo (name : String) (base : Storage) (changes : CellId)
  | faulty (name : String) (failing : List StorageOperation)
deriving DecidableEq

namespace Storage

/-- The name of a mapping storage that is given none. -/
def defaultMappingName : String := "Mapping Storage"

/-- A file storage is named by its path. -/
def name : Storage → String
  | mapping name _ => name
  | memory name _ _ => name
  | file settings _ => settings.path
  | demo name _ _ => name
  | faulty name _ => name

/-- Writing is refused. -/
def isReadOnly : Storage → Bool
  | memory _ readOnly _ => readOnly
  | file settings _ => settings.readOnly
  | mapping _ _ | demo _ _ _ | faulty _ _ => false

/-- The name of a demo storage that is given none. -/
def demoName (base : Storage) : String := "DemoStorage(" ++ base.name ++ ")"

/-- The name that the changes of a demo storage go by. -/
def changesName (name : String) : String := name ++ " changes"

/-- What the storage is, as a value. -/
def describe : Storage → Json
  | mapping name _ => .ofMembers [("type", .string "mappingstorage"), ("name", .string name)]
  | memory name _ _ => .ofMembers [("type", .string "memory"), ("name", .string name)]
  | file settings _ => .ofMembers (settings.members ++ [("type", .string "filestorage")])
  | demo name base _ =>
    .ofMembers [("type", .string "demostorage"), ("name", .string name), ("base", base.describe)]
  | faulty name _ => .ofMembers [("type", .string "faulty"), ("name", .string name)]

end Storage

end StoreTopology

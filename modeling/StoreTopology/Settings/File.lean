/-
**The settings of a file storage.**
-/

import StoreTopology.Settings.Decoding

namespace StoreTopology

structure FileSettings where
  /-- The path of the data file. -/
  path : String
  /-- Start from an empty file and discard what is there. -/
  create : Bool := false
  readOnly : Bool := false
  /-- The largest size in bytes that a commit may give the data file. -/
  quota : Option UInt64 := none
  blobDirectory : Option String := none
  blobPermissions : UInt32 := 0o700
  packGarbage : Bool := true
  packKeepOld : Bool := true
deriving DecidableEq

namespace FileSettings

/-- The members that describe the settings. -/
def members (settings : FileSettings) : List (String × Json) :=
  [("path", .string settings.path),
   ("create", .bool settings.create),
   ("read-only", .bool settings.readOnly),
   ("quota", nullOr .ofUInt64 settings.quota),
   ("blob-dir", nullOr .string settings.blobDirectory),
   ("blob-dir-permissions", .ofUInt32 settings.blobPermissions),
   ("pack-gc", .bool settings.packGarbage),
   ("pack-keep-old", .bool settings.packKeepOld)]

def toJson (settings : FileSettings) : Json := .ofMembers settings.members

/-- The fields in declared order. -/
def fields : List FieldCheck :=
  [Decoder.path.checks "path",
   Decoder.bool.checks "create",
   Decoder.bool.checks "read-only",
   (Decoder.uint64 "u64").nullable.checks "quota",
   Decoder.path.nullable.checks "blob-dir",
   Decoder.uint32.checks "blob-dir-permissions",
   Decoder.bool.checks "pack-gc",
   Decoder.bool.checks "pack-keep-old"]

/-- The settings with the fields that a look-up finds. -/
def build (look : String → Option Json) : Except DecodeProblem FileSettings := do
  return {
    path := ← requiredField look "path" .path
    create := ← requiredField look "create" .bool
    readOnly := ← requiredField look "read-only" .bool
    quota := ← optionalField look "quota" (.uint64 "u64")
    blobDirectory := ← optionalField look "blob-dir" .path
    blobPermissions := ← requiredField look "blob-dir-permissions" .uint32
    packGarbage := ← requiredField look "pack-gc" .bool
    packKeepOld := ← requiredField look "pack-keep-old" .bool }

/-- The settings that a value describes. -/
def ofJson (json : Json) : Except DecodeProblem FileSettings :=
  decodeFields "FileStorageConfig" fields build json

end FileSettings

end StoreTopology

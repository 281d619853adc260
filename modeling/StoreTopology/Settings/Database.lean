/-
**The settings of a database.**

Apart from the name, and the permission of references to other databases, they are sizes and
times for clients that keep objects of the database; the pool size is a limit that opening
connections may exceed with a warning.
-/

import StoreTopology.Settings.Decoding

namespace StoreTopology

structure DatabaseSettings where
  databaseName : String := ""
  /-- Implicit references to other databases are allowed. -/
  crossReferences : Bool := true
  cacheSize : Int64 := 5000
  cacheSizeBytes : UInt64 := 0
  poolSize : UInt64 := 7
  poolTimeout : Option UInt64 := none
  historicalPoolSize : UInt64 := 3
  historicalCacheSize : Int64 := 1000
  historicalTimeout : UInt64 := 300
  largeRecordSize : UInt64 := 16777216
deriving DecidableEq

namespace DatabaseSettings

/-- The members that describe the settings. -/
def members (settings : DatabaseSettings) : List (String × Json) :=
  [("database-name", .string settings.databaseName),
   ("xrefs", .bool settings.crossReferences),
   ("cache-size", .ofInt64 settings.cacheSize),
   ("cache-size-bytes", .ofUInt64 settings.cacheSizeBytes),
   ("pool-size", .ofUInt64 settings.poolSize),
   ("pool-timeout", nullOr .ofUInt64 settings.poolTimeout),
   ("historical-pool-size", .ofUInt64 settings.historicalPoolSize),
   ("historical-cache-size", .ofInt64 settings.historicalCacheSize),
   ("historical-timeout", .ofUInt64 settings.historicalTimeout),
   ("large-record-size", .ofUInt64 settings.largeRecordSize)]

def toJson (settings : DatabaseSettings) : Json := .ofMembers settings.members

/-- The fields in declared order. -/
def fields : List FieldCheck :=
  [Decoder.text.checks "database-name",
   Decoder.bool.checks "xrefs",
   Decoder.int64.checks "cache-size",
   (Decoder.uint64 "u64").checks "cache-size-bytes",
   (Decoder.uint64 "usize").checks "pool-size",
   (Decoder.uint64 "u64").nullable.checks "pool-timeout",
   (Decoder.uint64 "usize").checks "historical-pool-size",
   Decoder.int64.checks "historical-cache-size",
   (Decoder.uint64 "u64").checks "historical-timeout",
   (Decoder.uint64 "u64").checks "large-record-size"]

/-- The settings with the fields that a look-up finds. -/
def build (look : String → Option Json) : Except DecodeProblem DatabaseSettings := do
  return {
    databaseName := ← requiredField look "database-name" .text
    crossReferences := ← requiredField look "xrefs" .bool
    cacheSize := ← requiredField look "cache-size" .int64
    cacheSizeBytes := ← requiredField look "cache-size-bytes" (.uint64 "u64")
    poolSize := ← requiredField look "pool-size" (.uint64 "usize")
    poolTimeout := ← optionalField look "pool-timeout" (.uint64 "u64")
    historicalPoolSize := ← requiredField look "historical-pool-size" (.uint64 "usize")
    historicalCacheSize := ← requiredField look "historical-cache-size" .int64
    historicalTimeout := ← requiredField look "historical-timeout" (.uint64 "u64")
    largeRecordSize := ← requiredField look "large-record-size" (.uint64 "u64") }

/-- The settings that a value describes. -/
def ofJson (json : Json) : Except DecodeProblem DatabaseSettings :=
  decodeFields "DatabaseConfig" fields build json

end DatabaseSettings

end StoreTopology

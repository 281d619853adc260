/-
**The built-in section types.**

* `mappingstorage`: records in memory;
* `filestorage`: records in a data file, with a blob directory beside it if one is asked for;
* `demostorage`: a layer of changes over the one nested storage;
* `zodb`: a named database over the one nested storage.
-/

import StoreTopology.Builder.Basic
import StoreTopology.Database.Operations

namespace StoreTopology.Builder

/-- The one storage among what the nested sections built. -/
def onlyStorage : List Built → Except ConfigError Storage
  | [.storage storage] => .ok storage
  | _ => .error (.build .notOneStorage)

/-! ### Mapping storages -/

def mappingSchema : OptionSchema := (OptionSchema.new true).optional "name" .string

/-- A mapping storage is named by its option, else by its section. -/
def mapping : Builder where
  kind := .storage
  children := .none
  schema := mappingSchema
  build _ name options _ := do
    let chosen := ((options.string? "name").or name).getD Storage.defaultMappingName
    return .storage (← Storage.newMapping chosen .empty)

/-! ### File storages -/

def fileSchema : OptionSchema :=
  OptionSchema.new true
    |>.required "path" .path
    |>.withDefault "create" .boolean "false"
    |>.withDefault "read-only" .boolean "false"
    |>.optional "quota" .byteSize
    |>.optional "blob-dir" .path
    |>.withDefault "blob-dir-permissions" .octal "0700"
    |>.withDefault "pack-gc" .boolean "true"
    |>.withDefault "pack-keep-old" .boolean "true"

/-- Create a directory and those above it, and give it exactly the given permission bits. -/
def ensureDirectory (path : String) (mode : UInt32) : Action StoreError Unit := do
  .log .debug ("Creating " ++ path ++ " with mode " ++
    String.ofList (Nat.toDigits 8 mode.toNat) ++ "...")
  .onFiles fun files => files.makeDirectories path mode.toNat
  .onFiles fun files =>
    match files.setMode path mode.toNat with
    | .ok after => (.ok (), after)
    | .error problem => (.error problem, files)

/-- The settings that the options of a file storage give. -/
def fileSettings (options : Options) : Except OptionProblem FileSettings := do
  let path ← options.requirePath "path"
  return {
    path
    create := (options.boolean? "create").getD false
    readOnly := (options.boolean? "read-only").getD false
    quota := options.byteSize? "quota"
    blobDirectory := options.path? "blob-dir"
    blobPermissions := (options.octal? "blob-dir-permissions").getD 0o700
    packGarbage := (options.boolean? "pack-gc").getD true
    packKeepOld := (options.boolean? "pack-keep-old").getD true }

/-- The blob directory comes before the data file. -/
def file : Builder where
  kind := .storage
  children := .none
  schema := fileSchema
  build _ _ options _ := do
    let settings ← Action.ofExcept ((fileSettings options).mapError .option)
    if let some directory := settings.blobDirectory then
      (ensureDirectory directory settings.blobPermissions).mapError .storage
    let storage ← (Storage.openFile settings).mapError .storage
    return .storage storage

/-! ### Demo storages -/

def demoSchema : OptionSchema := (OptionSchema.new true).optional "name" .string

/-- A demo storage is named by its option, else by its section, else by its base. -/
def demo : Builder where
  kind := .storage
  children := .one .storage
  schema := demoSchema
  build _ name options children := do
    let base ← Action.ofExcept (onlyStorage children)
    return .storage (← Storage.newDemo ((options.string? "name").or name) base)

/-! ### Databases -/

def databaseSchema : OptionSchema :=
  OptionSchema.new true
    |>.optional "database-name" .string
    |>.withDefault "allow-implicit-cross-references" .boolean "true"
    |>.withDefault "cache-size" .integer "5000"
    |>.withDefault "cache-size-bytes" .byteSize "0"
    |>.withDefault "pool-size" .integer "7"
    |>.optional "pool-timeout" .timeInterval
    |>.withDefault "historical-pool-size" .integer "3"
    |>.withDefault "historical-cache-size" .integer "1000"
    |>.withDefault "historical-timeout" .timeInterval "300s"
    |>.withDefault "large-record-size" .byteSize "16MB"

/-- The settings that the name and the options of a database section give. -/
def databaseSettings (name : Option String) (options : Options) :
    Except OptionProblem DatabaseSettings := do
  let defaults : DatabaseSettings := {}
  let poolSize ← options.count "pool-size"
  let historicalPoolSize ← options.count "historical-pool-size"
  return {
    databaseName := ((options.string? "database-name").or name).getD ""
    crossReferences :=
      (options.boolean? "allow-implicit-cross-references").getD defaults.crossReferences
    cacheSize := (options.integer? "cache-size").getD defaults.cacheSize
    cacheSizeBytes := (options.byteSize? "cache-size-bytes").getD defaults.cacheSizeBytes
    poolSize := poolSize.getD defaults.poolSize
    poolTimeout := options.seconds? "pool-timeout"
    historicalPoolSize := historicalPoolSize.getD defaults.historicalPoolSize
    historicalCacheSize :=
      (options.integer? "historical-cache-size").getD defaults.historicalCacheSize
    historicalTimeout := (options.seconds? "historical-timeout").getD defaults.historicalTimeout
    largeRecordSize := (options.byteSize? "large-record-size").getD defaults.largeRecordSize }

/-- A database is named by its option, else by its section, else by the empty text. -/
def database : Builder where
  kind := .database
  children := .one .storage
  schema := databaseSchema
  build registry name options children := do
    let storage ← Action.ofExcept (onlyStorage children)
    let settings ← Action.ofExcept ((databaseSettings name options).mapError .option)
    .log .debug ("Building database '" ++ settings.databaseName ++ "' over " ++ storage.name)
    return .database (← Database.create storage settings registry)

end StoreTopology.Builder

namespace StoreTopology.Catalog

/-- The catalog of the built-in section types. -/
def builtIn : Catalog :=
  .ofList [("mappingstorage", Builder.mapping), ("filestorage", Builder.file),
    ("demostorage", Builder.demo), ("zodb", Builder.database)]

end StoreTopology.Catalog

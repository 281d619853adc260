/-
**Compilation: from the text of a configuration to a topology of databases.**

All sections of a text are checked before the first is built. Sections are built from the inside out
and in source order, and each top-level database is registered before the next is built.

* `Catalog.validate`: types and nesting of a section;
* `Catalog.build`: what a section builds;
* `Catalog.compile`: the databases of a text, with the registry that they share. If one of them
  cannot be built or registered, those before it are closed;
* `Catalog.compileStorage`: the storage of a text with one storage section.
-/

import StoreTopology.Builder.BuiltIn
import StoreTopology.Database.Connection
import StoreTopology.Section.Forest

namespace StoreTopology

/-- The databases of a compilation in source order, and their registry. -/
structure Topology where
  databases : List Database
  registry : RegistryId
deriving DecidableEq

namespace Catalog

/-! ### Checking -/

/-- Check that a section builds the expected kind and has the nested sections that its type takes,
which are checked in turn. -/
def validate (catalog : Catalog) (expected : SectionKind) (block : Section) :
    Except ConfigError Unit := do
  let builder ← resolve catalog block
  if builder.kind ≠ expected then
    throw (.misplaced (.wrongKind block.typeName builder.kind expected) block.line)
  match builder.children, _shape : block.children with
  | .none, [] => return
  | .none, child :: _ =>
    throw (.misplaced (.unexpectedChild block.typeName child.typeName) block.line)
  | .one kind, [child] => validate catalog kind child
  | .one kind, children =>
    throw (.misplaced (.childCount block.typeName kind children.length) block.line)
termination_by sizeOf block
decreasing_by
  cases block
  simp only [Section.mk.sizeOf_spec] at *
  simp only [_shape, List.cons.sizeOf_spec]
  omega

/-- Check top-level sections in turn. -/
def validateAll (catalog : Catalog) (expected : SectionKind) :
    List Section → Except ConfigError Unit
  | [] => .ok ()
  | block :: rest => do
    validate catalog expected block
    validateAll catalog expected rest

/-! ### Building -/

/-- The options of a section, the lines passed over going to the log. -/
def settleOptions (schema : OptionSchema) (block : Section) : Action ConfigError Options := do
  let settled := schema.settle block
  .change fun site => settled.ignored.foldl
    (fun site line => site.log .debug ("Ignoring unknown option '" ++ line.key ++ "' in <" ++
      block.typeName ++ "> (line " ++ toString line.line ++ ")")) site
  .ofExcept (settled.result.mapError .option)

mutual

/-- Build a section after its nested sections. -/
def build (catalog : Catalog) (registry : RegistryId) :
    Section → Action ConfigError Built
  | ⟨typeName, name, options, children, line, endLine⟩ => do
    let block : Section := ⟨typeName, name, options, children, line, endLine⟩
    let builder ← Action.ofExcept (resolve catalog block)
    let built ← buildAll catalog registry children
    let settled ← settleOptions builder.schema block
    .log .debug (ConfigError.atLine ("Building <" ++ typeName ++ ">") line)
    builder.build registry name settled built

/-- Build sections in turn. -/
def buildAll (catalog : Catalog) (registry : RegistryId) :
    List Section → Action ConfigError (List Built)
  | [] => pure []
  | block :: rest => do
    let first ← build catalog registry block
    let others ← buildAll catalog registry rest
    return first :: others

end

/-- Build a top-level section and register its database. What is built but cannot be used is
closed. -/
def buildDatabase (catalog : Catalog) (registry : RegistryId) (block : Section) :
    Action ConfigError Database := do
  match ← build catalog registry block with
  | .storage storage =>
    let _ ← (Action.outcome storage.close : Action ConfigError _)
    throw (.build (.notBuilt block.typeName .database))
  | .database database =>
    match ← (Action.outcome (registry.register database) : Action ConfigError _) with
    | .ok () => return database
    | .error problem =>
      let _ ← (Action.outcome database.close : Action ConfigError _)
      match problem with
      | .duplicateDatabase name => throw (.build (.duplicateName name))
      | other => throw (.storage other)

/-- Build top-level sections in turn. If one fails, all databases registered so far are closed. -/
def buildDatabases (catalog : Catalog) (registry : RegistryId) :
    List Section → Action ConfigError (List Database)
  | [] => pure []
  | block :: rest => do
    match ← (Action.outcome (buildDatabase catalog registry block) : Action ConfigError _) with
    | .ok database =>
      let others ← buildDatabases catalog registry rest
      return database :: others
    | .error problem =>
      let _ ← (Action.outcome registry.closeAll : Action ConfigError _)
      throw problem

/-! ### Compiling -/

/-- The sections of a text. -/
def readSections (text : String) : Except ConfigError (List Section) :=
  (parse text).mapError .malformed

/-- The databases of a text. -/
def compile (catalog : Catalog) (text : String) : Action ConfigError Topology := do
  let sections ← Action.ofExcept (readSections text)
  Action.ofExcept (validateAll catalog .database sections)
  let registry ← Action.create Site.addRegistry
  let databases ← buildDatabases catalog registry sections
  return ⟨databases, registry⟩

/-- The only section of a text that has to describe one storage. -/
def onlySection : List Section → Except ConfigError Section
  | [] => .error (.build .noStorageSection)
  | [block] => .ok block
  | _ :: extra :: _ => .error (.misplaced .extraSection extra.line)

/-- The storage of a text. -/
def compileStorage (catalog : Catalog) (text : String) : Action ConfigError Storage := do
  let sections ← Action.ofExcept (readSections text)
  let block ← Action.ofExcept (onlySection sections)
  Action.ofExcept (validate catalog .storage block)
  let registry ← Action.create Site.addRegistry
  match ← build catalog registry block with
  | .storage storage => return storage
  | .database database =>
    let _ ← (Action.outcome database.close : Action ConfigError _)
    throw (.build (.notBuilt block.typeName .storage))

end Catalog

namespace Topology

/-- The first database of the text. -/
def primary? (topology : Topology) : Option Database := topology.databases.head?

/-- The registered database of a name. -/
def get? (site : Site) (topology : Topology) (name : String) : Option Database :=
  topology.registry.get? site name

/-- Close all registered databases. -/
def close (topology : Topology) : Action StoreError Unit := topology.registry.closeAll

/-- The databases by name, as a value. -/
def describe (topology : Topology) : Json :=
  .ofMembers [("databases",
    .ofMembers (topology.databases.map fun database => (database.name, database.describe)))]

end Topology

/-! ### The built-in section types -/

/-- The first database of a text. -/
def databaseOfText (text : String) : Action ConfigError Database := do
  let topology ← Catalog.builtIn.compile text
  match topology.primary? with
  | some database => return database
  | none => throw (.build .noDatabaseSection)

/-- The storage of a text. -/
def storageOfText (text : String) : Action ConfigError Storage :=
  Catalog.builtIn.compileStorage text

/-- The text in a file. -/
def readConfiguration (path : String) : Action ConfigError String := do
  .log .debug ("Reading configuration " ++ path ++ "...")
  let site ← Action.site
  match site.files.readFile path with
  | .error problem => throw (.unreadable path problem)
  | .ok contents =>
    match String.fromUTF8? contents with
    | some text => return text
    | none => throw (.unreadable path .notText)

/-- The first database of the text in a file. -/
def databaseOfFile (path : String) : Action ConfigError Database := do
  databaseOfText (← readConfiguration path)

/-- The storage of the text in a file. -/
def storageOfFile (path : String) : Action ConfigError Storage := do
  storageOfText (← readConfiguration path)

end StoreTopology

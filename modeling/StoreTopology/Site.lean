/-
**The site on which storages and databases live.**

A site holds what operations change: the files, the memory cells of storages, the states of
databases, the registries, and the history of what happened. An operation is an action: it may
fail, and what it did until then stays.
-/

import StoreTopology.Database.Basic
import StoreTopology.FileTree.Subtree
import StoreTopology.Option.Value
import StoreTopology.Section.Kind
import StoreTopology.Table

namespace StoreTopology

inductive LogLevel where
  | debug
  | info
  | warn
deriving DecidableEq, Repr

def LogLevel.name : LogLevel → String
  | debug => "debug"
  | info => "info"
  | warn => "warn"

/-- One call of a builder that is on record. -/
structure BuildCall where
  /-- The label under which the builder is on record. -/
  label : Nat
  name : Option String
  options : Options
  /-- The kinds and names of what the nested sections built. -/
  children : List (SectionKind × String)
  /-- The databases registered when the call was made. -/
  registered : Registry
deriving DecidableEq

/-- What is remembered. -/
inductive Event where
  | message (level : LogLevel) (text : String)
  | build (call : BuildCall)
  /-- A database was closed for the first time. -/
  | closing (database : Database)
  /-- A faulty storage was asked to close. -/
  | asked (storage : String)
deriving DecidableEq

structure Site where
  files : FileTree := {}
  /-- The records in memory, none in a cell that is closed. -/
  cells : Table (Option Records) := {}
  databases : Table DatabaseState := {}
  registries : Table Registry := {}
  /-- What happened, in order. -/
  history : List Event := []

namespace Site

/-- The records of a cell, unless it is closed. -/
def records? (site : Site) (cell : CellId) : Option Records :=
  (site.cells.get? cell.number).join

/-- The site with other records in a cell, or none. -/
def setRecords (site : Site) (cell : CellId) (records : Option Records) : Site :=
  { site with cells := site.cells.set cell.number records }

/-- The state of a database. -/
def state (site : Site) (database : DatabaseId) : DatabaseState :=
  (site.databases.get? database.number).getD {}

def setState (site : Site) (database : DatabaseId) (state : DatabaseState) : Site :=
  { site with databases := site.databases.set database.number state }

/-- The databases of a registry. -/
def registry (site : Site) (id : RegistryId) : Registry :=
  (site.registries.get? id.number).getD .empty

def setRegistry (site : Site) (id : RegistryId) (registry : Registry) : Site :=
  { site with registries := site.registries.set id.number registry }

/-- Remember one more event. -/
def remember (site : Site) (event : Event) : Site :=
  { site with history := site.history ++ [event] }

def log (site : Site) (level : LogLevel) (text : String) : Site :=
  site.remember (.message level text)

/-- The site with a new cell. -/
def addCell (site : Site) (records : Records) : CellId × Site :=
  (⟨site.cells.next⟩, { site with cells := site.cells.add (some records) })

/-- The site with a new registry. -/
def addRegistry (site : Site) : RegistryId × Site :=
  (⟨site.registries.next⟩, { site with registries := site.registries.add .empty })

end Site

/-! ### Actions -/

/-- An operation on a site, which may fail with what it did until then done. -/
def Action (ε α : Type) : Type := Site → Except ε α × Site

namespace Action

variable {ε ε' α β : Type}

instance : Monad (Action ε) where
  pure value := fun site => (.ok value, site)
  bind action next := fun site =>
    match action site with
    | (.ok value, after) => next value after
    | (.error error, after) => (.error error, after)

instance : MonadExcept ε (Action ε) where
  throw error := fun site => (.error error, site)
  tryCatch action handle := fun site =>
    match action site with
    | (.ok value, after) => (.ok value, after)
    | (.error error, after) => handle error after

/-- The site as it is. -/
def site : Action ε Site := fun site => (.ok site, site)

/-- A change that cannot fail. -/
def change (f : Site → Site) : Action ε Unit := fun site => (.ok (), f site)

/-- Something new on the site. -/
def create (f : Site → α × Site) : Action ε α := fun site =>
  let (value, after) := f site
  (.ok value, after)

/-- A result that depends on nothing that changes. -/
def ofExcept (result : Except ε α) : Action ε α := fun site => (result, site)

/-- The action with its errors taken for others. -/
def mapError (f : ε → ε') (action : Action ε α) : Action ε' α := fun site =>
  match action site with
  | (.ok value, after) => (.ok value, after)
  | (.error error, after) => (.error (f error), after)

/-- The action with its outcome, success or failure, as its result. -/
def outcome (action : Action ε α) : Action ε' (Except ε α) := fun site =>
  let (result, after) := action site
  (.ok result, after)

def log (level : LogLevel) (text : String) : Action ε Unit := change fun site => site.log level text

/-- A change of the files. -/
def onFiles (f : FileTree → Except FileProblem Unit × FileTree) : Action StoreError Unit :=
  fun site =>
    let (result, files) := f site.files
    (result.mapError .files, { site with files })

end Action

end StoreTopology

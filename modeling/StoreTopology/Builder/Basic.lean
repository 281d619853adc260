/-
**Builders and their catalog.**

A builder makes a storage or a database of a section, from its name, its coerced options and what
the nested sections built. A catalog has builders under the types of the sections that they build;
types are looked up without regard to case.
-/

import StoreTopology.ConfigError
import StoreTopology.Option.Schema
import StoreTopology.Site
import StoreTopology.Text.Lowercase

namespace StoreTopology

/-- What a section built. -/
inductive Built where
  | storage (storage : Storage)
  | database (database : Database)
deriving DecidableEq

namespace Built

def kind : Built → SectionKind
  | .storage _ => .storage
  | .database _ => .database

def name : Built → String
  | .storage inner => inner.name
  | .database inner => inner.name

end Built

/-- How sections of one type are built. -/
structure Builder where
  kind : SectionKind
  /-- The nested sections that a section takes. -/
  children : ChildShape
  /-- The options that a section takes. -/
  schema : OptionSchema
  /-- Builds a section from the registry of the compilation, the name of the section, its options
  and what its nested sections built, in source order. -/
  build : RegistryId → Option String → Options → List Built → Action ConfigError Built

/-- The builder with its calls on record under a label. -/
def Builder.recorded (builder : Builder) (label : Nat) : Builder :=
  { builder with
    build := fun registry name options children => do
      .change fun site => site.remember (.build {
        label, name, options
        children := children.map fun child => (child.kind, child.name)
        registered := site.registry registry })
      builder.build registry name options children }

/-- Builders by section type, in lowercase. -/
abbrev Catalog := SortedMap String Builder

namespace Catalog

/-- The builder of a type. -/
def lookup? (catalog : Catalog) (typeName : String) : Option Builder :=
  catalog.get? (Text.lowercased typeName)

/-- The catalog with a builder for a type, in place of any that is there. -/
def register (catalog : Catalog) (typeName : String) (builder : Builder) : Catalog :=
  catalog.insert (Text.lowercased typeName) builder

/-- Register a builder for a type, with the builder that it replaces. -/
def exchange (catalog : Catalog) (typeName : String) (builder : Builder) :
    Option Builder × Catalog :=
  (lookup? catalog typeName, register catalog typeName builder)

theorem lookup?_register (catalog : Catalog) (typeName other : String) (builder : Builder) :
    lookup? (register catalog typeName builder) other =
      if Text.lowercased typeName = Text.lowercased other then some builder
      else lookup? catalog other :=
  SortedMap.get?_insert catalog (Text.lowercased typeName) (Text.lowercased other) builder

/-- The types of the catalog, sorted. -/
def types (catalog : Catalog) : List String := catalog.keys

/-- The builder of a section, or the problem that there is none. -/
def resolve (catalog : Catalog) (block : Section) : Except ConfigError Builder :=
  match lookup? catalog block.typeName with
  | some builder => .ok builder
  | none => .error (.misplaced (.unknownType block.typeName) block.line)

end Catalog

end StoreTopology

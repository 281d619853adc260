/-
**What sections build.**
-/

namespace StoreTopology

/-- A section builds a storage or a database. -/
inductive SectionKind where
  | storage
  | database
deriving DecidableEq, Repr

def SectionKind.name : SectionKind → String
  | storage => "storage"
  | database => "database"

/-- The sections that may be nested in a section. -/
inductive ChildShape where
  | none
  | one (kind : SectionKind)
deriving DecidableEq, Repr

end StoreTopology

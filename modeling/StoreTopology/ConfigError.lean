/-
**Why a configuration is refused.**

* a text may be malformed, or its sections nested in ways that their types do not allow; both are
  told by a line, and are found before anything is built;
* an option may have a wrong value, and what the sections build may not fit together;
* a storage may fail to open, and the file with the text may be unreadable.
-/

import StoreTopology.Option.Problem
import StoreTopology.Section.Kind
import StoreTopology.Section.Problem
import StoreTopology.Storage.Problem

namespace StoreTopology

/-- Why sections may not stand where they stand. -/
inductive NestingProblem where
  | unknownType (typeName : String)
  | wrongKind (typeName : String) (built expected : SectionKind)
  | unexpectedChild (typeName child : String)
  | childCount (typeName : String) (kind : SectionKind) (count : Nat)
  | extraSection
deriving DecidableEq, Repr

def NestingProblem.message : NestingProblem → String
  | unknownType typeName => "unknown type name: '" ++ typeName ++ "'"
  | wrongKind typeName built expected =>
    "<" ++ typeName ++ "> builds a " ++ built.name ++ " where a " ++ expected.name ++
      " section is expected"
  | unexpectedChild typeName child =>
    "<" ++ typeName ++ "> does not take nested sections, found <" ++ child ++ ">"
  | childCount typeName kind count =>
    "<" ++ typeName ++ "> requires exactly one nested " ++ kind.name ++ " section, found " ++
      toString count
  | extraSection => "only one top-level storage section is allowed"

/-- Why what sections build does not fit together. -/
inductive BuildProblem where
  | noStorageSection
  | noDatabaseSection
  | notOneStorage
  | notBuilt (typeName : String) (expected : SectionKind)
  | duplicateName (name : String)
  /-- A builder has a reason of its own. -/
  | other (text : String)
deriving DecidableEq, Repr

def BuildProblem.message : BuildProblem → String
  | noStorageSection => "no storage section was configured"
  | noDatabaseSection => "no database section was configured"
  | notOneStorage => "expected exactly one nested storage section"
  | notBuilt typeName expected => "<" ++ typeName ++ "> did not build a " ++ expected.name
  | duplicateName name => (StoreError.duplicateDatabase name).message
  | other text => text

inductive ConfigError where
  | malformed (error : ParseError)
  | misplaced (problem : NestingProblem) (line : Nat)
  | option (problem : OptionProblem)
  | build (problem : BuildProblem)
  | storage (error : StoreError)
  | unreadable (path : String) (problem : FileProblem)
deriving DecidableEq

namespace ConfigError

/-- The line of an error of the text or its nesting. -/
def line? : ConfigError → Option Nat
  | malformed error => some error.line
  | misplaced _ line => some line
  | option _ | build _ | storage _ | unreadable _ _ => none

/-- The text or its nesting is wrong. -/
def isSyntactic (error : ConfigError) : Bool := error.line?.isSome

/-- A value, or what is built from values, is wrong. -/
def isValue : ConfigError → Bool
  | option _ | build _ => true
  | malformed _ | misplaced _ _ | storage _ | unreadable _ _ => false

/-- A storage refused to open because it is read-only. -/
def isReadOnly : ConfigError → Bool
  | storage error => error.isReadOnly
  | malformed _ | misplaced _ _ | option _ | build _ | unreadable _ _ => false

/-- A message that ends with a line. -/
def atLine (message : String) (line : Nat) : String :=
  message ++ " (line " ++ toString line ++ ")"

def message : ConfigError → String
  | malformed error => atLine error.problem.message error.line
  | misplaced problem line => atLine problem.message line
  | option problem => problem.message
  | build problem => problem.message
  | storage error => error.message
  | unreadable path problem =>
    "could not read configuration " ++ path ++ ": " ++ problem.message

end ConfigError

end StoreTopology

/-
**What can be wrong with the options of a section.**
-/

import StoreTopology.Option.Value

namespace StoreTopology

/-- Why an option of a section is refused. -/
inductive OptionProblem where
  /-- A raw value is not of the kind that its key asks for. -/
  | notOfKind (coercion : Coercion) (key raw : String)
  /-- An option that counts something is negative. -/
  | negativeCount (key : String) (value : Int64)
  /-- A key that the section type does not declare. -/
  | unknownKey (key typeName : String) (line : Nat)
  /-- A required option is missing from a section. -/
  | missingOption (key typeName : String) (line : Nat)
  /-- A path that a builder needs is missing from coerced options. -/
  | missingPath (key : String)
deriving DecidableEq

namespace OptionProblem

/-- Messages name an option with underscores in place of hyphens. -/
def shownKey (key : String) : String :=
  String.ofList (key.toList.map fun c => if c = '-' then '_' else c)

def message : OptionProblem → String
  | notOfKind coercion key raw =>
    "Expected " ++ coercion.description ++ " for " ++ shownKey key ++ " option, got: '" ++ raw ++
      "'"
  | negativeCount key value =>
    "Expected a non-negative integer for " ++ shownKey key ++ " option, got: '" ++
      toString value.toInt ++ "'"
  | unknownKey key typeName line =>
    "'" ++ key ++ "' is not a known key name for <" ++ typeName ++ "> (line " ++ toString line ++
      ")"
  | missingOption key typeName line =>
    "No value provided for required option '" ++ key ++ "' in <" ++ typeName ++ "> (line " ++
      toString line ++ ")"
  | missingPath key => "No value provided for required option '" ++ key ++ "'"

end OptionProblem

end StoreTopology

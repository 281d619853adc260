/-
**Which options a section type takes.**

A schema lists the declared options, each key once, in the order of their declarations. A strict
schema refuses keys that it does not declare, a lenient one passes over them.

* `OptionSchema.declare`: a new declaration of a key takes the place of the earlier one;
* `OptionSchema.settle`: the typed values of a section, or the first problem. Lines are settled in
  source order and only the last line of a key counts; defaults and missing options come after
  all lines, in declared order.
-/

import StoreTopology.Option.Coercion
import StoreTopology.Section.Basic

namespace StoreTopology

/-- One declared option. -/
structure OptionSpec where
  key : String
  coercion : Coercion
  /-- The raw value of an option that no line gives. -/
  default : Option String
  required : Bool
deriving DecidableEq, Repr

/-- The options that a section type takes. -/
structure OptionSchema where
  strict : Bool
  specs : List OptionSpec
  distinct : (specs.map OptionSpec.key).Nodup

namespace OptionSchema

/-- A schema that declares nothing. -/
def new (strict : Bool) : OptionSchema := ⟨strict, [], .nil⟩

/-- Declare an option. An earlier declaration of the key is withdrawn. -/
def declare (schema : OptionSchema) (spec : OptionSpec) : OptionSchema where
  strict := schema.strict
  specs := (schema.specs.filter fun earlier => earlier.key ≠ spec.key) ++ [spec]
  distinct := by
    rw [List.map_append, List.nodup_append]
    refine ⟨(List.filter_sublist.map OptionSpec.key).nodup schema.distinct, by simp, ?_⟩
    intro first present second last
    simp only [List.map_cons, List.map_nil, List.mem_singleton] at last
    obtain ⟨earlier, inside, rfl⟩ := List.mem_map.mp present
    have differs := (List.mem_filter.mp inside).2
    rw [last]
    simpa using differs

/-- Declare an option that every section has to give. -/
def required (schema : OptionSchema) (key : String) (coercion : Coercion) : OptionSchema :=
  schema.declare ⟨key, coercion, none, true⟩

/-- Declare an option that a section may leave out. -/
def optional (schema : OptionSchema) (key : String) (coercion : Coercion) : OptionSchema :=
  schema.declare ⟨key, coercion, none, false⟩

/-- Declare an option with the raw value that it has when a section leaves it out. -/
def withDefault (schema : OptionSchema) (key : String) (coercion : Coercion) (default : String) :
    OptionSchema :=
  schema.declare ⟨key, coercion, some default, false⟩

/-- The declaration of a key. -/
def spec? (schema : OptionSchema) (key : String) : Option OptionSpec :=
  schema.specs.find? fun spec => spec.key = key

/-! ### Settling the options of a section -/

/-- What settling the lines of a section amounts to: the lines that a lenient schema passed over
until the end or the first problem, and the values or that problem. -/
structure Settled where
  ignored : List OptionLine
  result : Except OptionProblem Options

/-- Settle lines in source order. A line counts only if no later one has its key. -/
def settleLines (schema : OptionSchema) (typeName : String) (values : Options) :
    List OptionLine → Settled
  | [] => ⟨[], .ok values⟩
  | line :: later =>
    match schema.spec? line.key with
    | none =>
      if schema.strict then ⟨[], .error (.unknownKey line.key typeName line.line)⟩
      else
        let rest := settleLines schema typeName values later
        { rest with ignored := line :: rest.ignored }
    | some spec =>
      if later.any fun other => other.key = line.key then
        settleLines schema typeName values later
      else
        match spec.coercion.coerce spec.key line.value with
        | .error problem => ⟨[], .error problem⟩
        | .ok value => settleLines schema typeName (values.insert spec.key value) later

/-- Settle the declared options that no line gives. -/
def settleDefaults (typeName : String) (line : Nat) (values : Options) :
    List OptionSpec → Except OptionProblem Options
  | [] => .ok values
  | spec :: rest =>
    if values.contains spec.key then settleDefaults typeName line values rest
    else match spec.default with
      | some raw =>
        match spec.coercion.coerce spec.key raw with
        | .error problem => .error problem
        | .ok value => settleDefaults typeName line (values.insert spec.key value) rest
      | none =>
        if spec.required then .error (.missingOption spec.key typeName line)
        else settleDefaults typeName line values rest

/-- The typed values of a section, with the lines that were passed over. -/
def settle (schema : OptionSchema) (block : Section) : Settled :=
  let lines := schema.settleLines block.typeName .empty block.options
  match lines.result with
  | .error problem => ⟨lines.ignored, .error problem⟩
  | .ok values =>
    ⟨lines.ignored, settleDefaults block.typeName block.line values schema.specs⟩

/-- The typed values of a section, or the first problem. -/
def coerce (schema : OptionSchema) (block : Section) : Except OptionProblem Options :=
  (schema.settle block).result

end OptionSchema

end StoreTopology

/-
**Reading settings from JSON values.**

Settings have named fields in a declared order. They are read from an object, whose further
members are ignored, or from an array with one element for each field.

* `decodeFields`: reads an object or an array. Of several problems the first counts: ill-typed
  members of an object come in the order of their names, and missing fields in declared order
  after them; the elements of an array come in their order.
-/

import StoreTopology.Json.Printer
import StoreTopology.Text.Quoted

namespace StoreTopology

/-- Why a value is not the settings, or not a field of them. -/
inductive DecodeProblem where
  | wrongType (found : Json) (expected : String)
  /-- An integer of the wrong size. -/
  | wrongSize (value : Int) (expected : String)
  | missingField (name : String)
  /-- An array with too few elements for the fields of settings. -/
  | tooShort (length : Nat) (settings : String) (fields : Nat)
  | tooLong (length : Nat)
deriving DecidableEq

namespace DecodeProblem

/-- What messages call a value of the wrong type. -/
def describe : Json → String
  | .null => "null"
  | .bool value => "boolean `" ++ Json.boolText value ++ "`"
  | .number (.integer value _) => "integer `" ++ toString value ++ "`"
  | .number (.float value) => "floating point `" ++ Json.floatText value ++ "`"
  | .string text => "string " ++ Text.quoted text
  | .array _ => "sequence"
  | .object _ => "map"

def message : DecodeProblem → String
  | wrongType found expected => "invalid type: " ++ describe found ++ ", expected " ++ expected
  | wrongSize value expected =>
    "invalid value: integer `" ++ toString value ++ "`, expected " ++ expected
  | missingField name => "missing field `" ++ name ++ "`"
  | tooShort length settings fields =>
    "invalid length " ++ toString length ++ ", expected struct " ++ settings ++ " with " ++
      toString fields ++ " elements"
  | tooLong length =>
    "invalid length " ++ toString length ++ ", expected fewer elements in array"

end DecodeProblem

/-! ### Single fields -/

/-- Reads a field from a value. -/
abbrev Decoder (α : Type) := Json → Except DecodeProblem α

namespace Decoder

def text : Decoder String
  | .string text => .ok text
  | other => .error (.wrongType other "a string")

def path : Decoder String
  | .string text => .ok text
  | other => .error (.wrongType other "path string")

def bool : Decoder Bool
  | .bool value => .ok value
  | other => .error (.wrongType other "a boolean")

def int64 : Decoder Int64
  | .number (.integer value _) =>
    if value < 0x8000000000000000 then .ok (Int64.ofInt value) else .error (.wrongSize value "i64")
  | other => .error (.wrongType other "i64")

/-- A word, under the name that messages have for its type. -/
def uint64 (expected : String) : Decoder UInt64
  | .number (.integer value _) =>
    if 0 ≤ value then .ok (UInt64.ofNat value.toNat) else .error (.wrongSize value expected)
  | other => .error (.wrongType other expected)

def uint32 : Decoder UInt32
  | .number (.integer value _) =>
    if 0 ≤ value ∧ value < 0x100000000 then .ok (UInt32.ofNat value.toNat)
    else .error (.wrongSize value "u32")
  | other => .error (.wrongType other "u32")

/-- A field that may be null. -/
def nullable {α : Type} (decoder : Decoder α) : Decoder (Option α)
  | .null => .ok none
  | value => (decoder value).map some

end Decoder

/-! ### All fields -/

/-- The name of a field and the test whether a value can be read for it. -/
structure FieldCheck where
  name : String
  check : Json → Except DecodeProblem Unit

/-- The check that a decoder accepts a value. -/
def Decoder.checks {α : Type} (decoder : Decoder α) (name : String) : FieldCheck :=
  ⟨name, fun value => (decoder value).map fun _ => ()⟩

/-- Check the members of an object that are fields, in the order of the members. -/
def checkMembers (fields : List FieldCheck) : List (String × Json) → Except DecodeProblem Unit
  | [] => .ok ()
  | (name, value) :: rest =>
    match fields.find? fun field => field.name = name with
    | none => checkMembers fields rest
    | some field =>
      match field.check value with
      | .error problem => .error problem
      | .ok () => checkMembers fields rest

/-- Pair the elements of an array with the fields, checking each. -/
def pairElements (settings : String) (all : List FieldCheck) (total : Nat) :
    List FieldCheck → List Json → Except DecodeProblem (List (String × Json))
  | [], [] => .ok []
  | [], _ :: _ => .error (.tooLong total)
  | _ :: _, [] => .error (.tooShort total settings all.length)
  | field :: fields, element :: elements =>
    match field.check element with
    | .error problem => .error problem
    | .ok () =>
      match pairElements settings all total fields elements with
      | .error problem => .error problem
      | .ok members => .ok ((field.name, element) :: members)

/-- Reads settings from their members: `build` gets the value of each field that is there. -/
def decodeFields {α : Type} (settings : String) (fields : List FieldCheck)
    (build : (String → Option Json) → Except DecodeProblem α) (json : Json) :
    Except DecodeProblem α :=
  match json.canonical with
  | .object members =>
    match checkMembers fields members with
    | .error problem => .error problem
    | .ok () => build fun name => SortedMap.findEntry name members
  | .array elements =>
    match pairElements settings fields elements.length fields elements with
    | .error problem => .error problem
    | .ok members => build fun name => SortedMap.findEntry name members
  | other => .error (.wrongType other ("struct " ++ settings))

/-- A field that has to be there. -/
def requiredField {α : Type} (look : String → Option Json) (name : String) (decoder : Decoder α) :
    Except DecodeProblem α :=
  match look name with
  | some value => decoder value
  | none => .error (.missingField name)

/-- A field that may be missing or null. -/
def optionalField {α : Type} (look : String → Option Json) (name : String)
    (decoder : Decoder α) : Except DecodeProblem (Option α) :=
  match look name with
  | some value => decoder.nullable value
  | none => .ok none

/-- A member for a field that may be absent, which is null then. -/
def nullOr {α : Type} (encode : α → Json) : Option α → Json
  | some value => encode value
  | none => .null

end StoreTopology

/-
**Typed option values.**

A coercion names the kind of value that an option holds; an option value is what a raw text becomes
under it. `Options` are the coerced values of one section by key, with a look-up for each kind
that finds nothing under a key of another kind.
-/

import StoreTopology.SortedMap

namespace StoreTopology

/-- The kinds of option values. -/
inductive Coercion where
  | boolean
  | integer
  | octal
  | byteSize
  | timeInterval
  | path
  | string
deriving DecidableEq, Repr

/-- What messages call a value of the kind. Every text is a path and a string. -/
def Coercion.description : Coercion → String
  | boolean => "a boolean"
  | integer => "an integer"
  | octal => "an octal"
  | byteSize => "a byte size"
  | timeInterval => "a time interval"
  | path => "a path"
  | string => "a string"

/-- A coerced value. Byte sizes are in bytes and time intervals in seconds. -/
inductive OptionValue where
  | boolean (value : Bool)
  | integer (value : Int64)
  | octal (value : UInt32)
  | byteSize (value : UInt64)
  | seconds (value : UInt64)
  | path (value : String)
  | string (value : String)
deriving DecidableEq

/-- The coerced options of one section. -/
abbrev Options := SortedMap String OptionValue

namespace Options

def boolean? (options : Options) (key : String) : Option Bool :=
  match options.get? key with
  | some (.boolean value) => some value
  | _ => none

def integer? (options : Options) (key : String) : Option Int64 :=
  match options.get? key with
  | some (.integer value) => some value
  | _ => none

def octal? (options : Options) (key : String) : Option UInt32 :=
  match options.get? key with
  | some (.octal value) => some value
  | _ => none

def byteSize? (options : Options) (key : String) : Option UInt64 :=
  match options.get? key with
  | some (.byteSize value) => some value
  | _ => none

def seconds? (options : Options) (key : String) : Option UInt64 :=
  match options.get? key with
  | some (.seconds value) => some value
  | _ => none

def path? (options : Options) (key : String) : Option String :=
  match options.get? key with
  | some (.path value) => some value
  | _ => none

def string? (options : Options) (key : String) : Option String :=
  match options.get? key with
  | some (.string value) => some value
  | _ => none

end Options

end StoreTopology

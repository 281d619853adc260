/-
**The text of a JSON value.**

* `Json.compact`: the value on one line without blanks;
* `Json.pretty`: one element or member a line, indented by two spaces for each container around it;
* `Json.floatText`: the shortest digits that read back, with a point or an exponent so that the
  text is no integer's.
-/

import StoreTopology.Binary64.Shortest
import StoreTopology.Json.Basic

namespace StoreTopology.Json

/-! ### Numbers -/

/-- Magnitudes from `10 ^ lowestPositional` up to below `10 ^ firstScientific` are written without
an exponent. -/
def lowestPositional : Int := -5

def firstScientific : Int := 16

/-- Digits with a point before the last `places` of them. -/
def pointed (digits : List Char) (places : Nat) : List Char :=
  if places < digits.length then
    digits.take (digits.length - places) ++ '.' :: digits.drop (digits.length - places)
  else '0' :: '.' :: List.replicate (places - digits.length) '0' ++ digits

/-- The text of a decimal magnitude that is not zero. -/
def decimalText (decimal : Binary64.Decimal) : List Char :=
  let digits := Nat.toDigits 10 decimal.digits
  let order := decimal.exponent + digits.length - 1
  if lowestPositional ≤ order && order < firstScientific then
    if 0 ≤ decimal.exponent then
      digits ++ List.replicate decimal.exponent.toNat '0' ++ ['.', '0']
    else pointed digits (-decimal.exponent).toNat
  else
    let mantissa := if digits.length = 1 then digits else pointed digits (digits.length - 1)
    let sign := if 0 ≤ order then '+' else '-'
    mantissa ++ 'e' :: sign :: Nat.toDigits 10 order.natAbs

/-- The text of a floating point number. -/
def floatText (x : Binary64) : String :=
  let magnitude := if x.magnitude = 0 then ['0', '.', '0'] else decimalText x.shortest
  String.ofList (if x.negative then '-' :: magnitude else magnitude)

/-- The text of a number. -/
def numberText : JsonNumber → String
  | .integer value _ => toString value
  | .float value => floatText value

/-! ### Strings -/

/-- One character of a string. -/
def escapedChar (c : Char) : List Char :=
  match c with
  | '"' => ['\\', '"']
  | '\\' => ['\\', '\\']
  | '\x08' => ['\\', 'b']
  | '\x0c' => ['\\', 'f']
  | '\n' => ['\\', 'n']
  | '\r' => ['\\', 'r']
  | '\t' => ['\\', 't']
  | c =>
    if c.toNat < 0x20 then
      ['\\', 'u', '0', '0', Nat.digitChar (c.toNat / 16), Nat.digitChar (c.toNat % 16)]
    else [c]

/-- A string in quotation marks. -/
def stringText (text : String) : String :=
  String.ofList ('"' :: text.toList.flatMap escapedChar ++ ['"'])

/-- The text of a truth value. -/
def boolText : Bool → String
  | true => "true"
  | false => "false"

/-! ### Values on one line -/

mutual

/-- The value without blanks. -/
def compact : Json → String
  | .null => "null"
  | .bool value => boolText value
  | .number value => numberText value
  | .string text => stringText text
  | .array [] => "[]"
  | .array (element :: rest) => "[" ++ element.compact ++ compactElements rest ++ "]"
  | .object [] => "\x7b\x7d"
  | .object ((name, value) :: rest) =>
    "\x7b" ++ stringText name ++ ":" ++ value.compact ++ compactMembers rest ++ "\x7d"

/-- The further elements of an array. -/
def compactElements : List Json → String
  | [] => ""
  | element :: rest => "," ++ element.compact ++ compactElements rest

/-- The further members of an object. -/
def compactMembers : List (String × Json) → String
  | [] => ""
  | (name, value) :: rest =>
    "," ++ stringText name ++ ":" ++ value.compact ++ compactMembers rest

end

/-! ### Values on several lines -/

/-- The beginning of a line inside a number of containers. -/
def newLine (depth : Nat) : String := String.ofList ('\n' :: List.replicate (2 * depth) ' ')

mutual

/-- The value inside a number of containers. -/
def prettyAt (depth : Nat) : Json → String
  | .null => "null"
  | .bool value => boolText value
  | .number value => numberText value
  | .string text => stringText text
  | .array [] => "[]"
  | .array (element :: rest) =>
    "[" ++ newLine (depth + 1) ++ element.prettyAt (depth + 1) ++
      prettyElements (depth + 1) rest ++ newLine depth ++ "]"
  | .object [] => "\x7b\x7d"
  | .object ((name, value) :: rest) =>
    "\x7b" ++ newLine (depth + 1) ++ stringText name ++ ": " ++ value.prettyAt (depth + 1) ++
      prettyMembers (depth + 1) rest ++ newLine depth ++ "\x7d"

/-- The further elements of an array. -/
def prettyElements (depth : Nat) : List Json → String
  | [] => ""
  | element :: rest =>
    "," ++ newLine depth ++ element.prettyAt depth ++ prettyElements depth rest

/-- The further members of an object. -/
def prettyMembers (depth : Nat) : List (String × Json) → String
  | [] => ""
  | (name, value) :: rest =>
    "," ++ newLine depth ++ stringText name ++ ": " ++ value.prettyAt depth ++
      prettyMembers depth rest

end

/-- The value on as many lines as it has elements and members. -/
def pretty (value : Json) : String := value.prettyAt 0

end StoreTopology.Json

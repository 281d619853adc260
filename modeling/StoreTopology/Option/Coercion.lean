/-
**From raw texts to typed values.**

* a boolean is one of six words, without regard to case;
* an integer has an optional sign and ASCII digits, and fits a signed word;
* an octal has an optional `0o` and digits from 0 to 7, and fits a half word;
* a byte size is a number of units of 1, `2 ^ 10`, `2 ^ 20` or `2 ^ 30` bytes;
* a time interval is a number of units of seconds, minutes, hours or days.

The product of number and unit has to fit a word. Units are read without regard to case, where the
Kelvin sign is a k and the long s is an s.
-/

import StoreTopology.Option.Problem
import StoreTopology.Text.Blank
import StoreTopology.Text.DecimalDigit
import StoreTopology.Text.Lowercase

namespace StoreTopology.Coercion

open Text

/-! ### Numbers -/

/-- The value of one or more ASCII digits. -/
def readNat? (text : List Char) : Option Nat :=
  if !text.isEmpty && text.all Char.isDigit then some (Nat.ofDigitChars 10 text 0) else none

/-- The value of digits after an optional sign. -/
def readInt? (text : List Char) : Option Int :=
  match text with
  | '+' :: digits => (readNat? digits).map Int.ofNat
  | '-' :: digits => (readNat? digits).map fun magnitude => -(magnitude : Int)
  | digits => (readNat? digits).map Int.ofNat

/-- A signed word, if the number fits. -/
def toInt64? (value : Int) : Option Int64 :=
  if -0x8000000000000000 ≤ value ∧ value < 0x8000000000000000 then some (Int64.ofInt value)
  else none

/-- An unsigned word, if the number fits. -/
def toUInt64? (value : Nat) : Option UInt64 :=
  if value < 0x10000000000000000 then some (UInt64.ofNat value) else none

/-- An unsigned half word, if the number fits. -/
def toUInt32? (value : Nat) : Option UInt32 :=
  if value < 0x100000000 then some (UInt32.ofNat value) else none

/-- The digits of an octal number without the mark before them. -/
def octalDigits (text : List Char) : List Char :=
  match text with
  | '0' :: 'o' :: digits => digits
  | '0' :: 'O' :: digits => digits
  | digits => digits

def isOctalDigit (c : Char) : Bool := '0' ≤ c && c ≤ '7'

/-- The value of an octal number. -/
def readOctal? (text : List Char) : Option UInt32 :=
  let digits := octalDigits text
  if !digits.isEmpty && digits.all isOctalDigit then toUInt32? (Nat.ofDigitChars 8 digits 0)
  else none

/-! ### Numbers of units -/

/-- A letter of a unit without regard to case. -/
def foldLetter (c : Char) : Char :=
  if c = '\u212a' then 'k' else if c = '\u017f' then 's' else c.toLower

/-- The bytes of a unit of size. -/
def sizeUnit? (unit : List Char) : Option Nat :=
  match unit.map foldLetter with
  | [] => some 1
  | ['k', 'b'] => some 1024
  | ['m', 'b'] => some (1024 * 1024)
  | ['g', 'b'] => some (1024 * 1024 * 1024)
  | _ => none

/-- The seconds of a unit of time. An accepted letter whose lowercase is not s, m or h stands for
days, the long s among them. -/
def timeUnit? (unit : List Char) : Option Nat :=
  match unit with
  | [] => some 1
  | [letter] =>
    if foldLetter letter ∈ ['s', 'm', 'h', 'd'] then
      match lowerChar letter with
      | 's' => some 1
      | 'm' => some 60
      | 'h' => some 3600
      | _ => some 86400
    else none
  | _ => none

/-- A number, optional blanks and a unit. The number ends with the last decimal digit of any
script, but has a value only if its digits are ASCII. -/
def readUnits? (unit? : List Char → Option Nat) (text : List Char) : Option UInt64 := do
  let unit ← unit? (trimStart (text.dropWhile isDecimalDigit))
  let number ← readNat? (text.takeWhile isDecimalDigit)
  toUInt64? (number * unit)

/-! ### All kinds -/

/-- The value of a word for true or false. -/
def readBool? (text : List Char) : Option Bool :=
  let word := String.ofList (lowercase text)
  if word ∈ ["true", "yes", "on"] then some true
  else if word ∈ ["false", "no", "off"] then some false
  else none

/-- The value of a raw text, if it is of the kind. -/
def read? (coercion : Coercion) (raw : String) : Option OptionValue :=
  match coercion with
  | .boolean => (readBool? raw.toList).map .boolean
  | .integer => ((readInt? raw.toList).bind toInt64?).map .integer
  | .octal => (readOctal? raw.toList).map .octal
  | .byteSize => (readUnits? sizeUnit? raw.toList).map .byteSize
  | .timeInterval => (readUnits? timeUnit? raw.toList).map .seconds
  | .path => some (.path raw)
  | .string => some (.string raw)

/-- The value of a raw text, or a problem that names the key. -/
def coerce (coercion : Coercion) (key raw : String) : Except OptionProblem OptionValue :=
  match coercion.read? raw with
  | some value => .ok value
  | none => .error (.notOfKind coercion key raw)

end StoreTopology.Coercion

namespace StoreTopology.Options

/-- A path that has to be there. -/
def requirePath (options : Options) (key : String) : Except OptionProblem String :=
  match options.path? key with
  | some path => .ok path
  | none => .error (.missingPath key)

/-- An integer that has to be a natural number, if it is there. -/
def count (options : Options) (key : String) : Except OptionProblem (Option UInt64) :=
  match options.integer? key with
  | none => .ok none
  | some value =>
    if value.toInt < 0 then .error (.negativeCount key value)
    else .ok (some (UInt64.ofNat value.toInt.toNat))

end StoreTopology.Options

/-
**Numbers and strings of a JSON text, byte by byte.**

Each is a machine that takes one byte at a time. A number ends at the first byte that cannot belong
to it, a string at its closing quotation mark.
-/

import StoreTopology.Binary64.Scaling
import StoreTopology.Json.Basic
import StoreTopology.Json.Problem

namespace StoreTopology

/-- The value of a decimal digit. -/
def digitValue? (byte : UInt8) : Option Nat :=
  if 0x30 ≤ byte && byte ≤ 0x39 then some (byte - 0x30).toNat else none

/-! ### Numbers -/

/-- The part of a number that was read last. -/
inductive NumeralStage where
  | sign
  | zero
  | whole
  | point
  | fraction
  | exponentMark
  | exponentSign
  | exponent
deriving DecidableEq, Repr

/-- The part of a number that has been read. Without its exponent it is the significand times a
power of ten. -/
structure Numeral where
  negative : Bool
  stage : NumeralStage
  /-- The digits that are kept, as one number. -/
  significand : Nat := 0
  /-- The power of ten that the digits so far ask for. -/
  scale : Int := 0
  /-- A digit of the whole part or of the fraction was not kept, nor is any further one of it. -/
  full : Bool := false
  exponentNegative : Bool := false
  exponent : Nat := 0
deriving DecidableEq, Repr

/-- What a byte does to a number. -/
inductive NumeralStep where
  | goesOn (numeral : Numeral)
  /-- The byte is not part of the number. -/
  | ends
  | refuses (problem : ReadProblem)

namespace Numeral

/-- The largest exponent that is read digit by digit. -/
def exponentLimit : Nat := 0x7fffffff

/-- The largest significand. -/
def significandLimit : Nat := 0xffffffffffffffff

/-- One more digit of the whole part or the fraction. It is kept if the significand has room; else
it counts as a zero in the whole part, and not at all in the fraction. -/
def addDigit (numeral : Numeral) (stage : NumeralStage) (digit : Nat) : Numeral :=
  let significand := numeral.significand * 10 + digit
  let kept := !numeral.full && significand ≤ significandLimit
  match stage, kept with
  | .fraction, true => { numeral with stage, significand, scale := numeral.scale - 1 }
  | .fraction, false => { numeral with stage, full := true }
  | _, true => { numeral with stage, significand }
  | _, false => { numeral with stage, full := true, scale := numeral.scale + 1 }

/-- One more digit of the exponent. An exponent beyond the limit is refused if it makes the number
too large. -/
def addExponentDigit (numeral : Numeral) (digit : Nat) : NumeralStep :=
  let exponent := numeral.exponent * 10 + digit
  if exponentLimit < exponent && numeral.significand ≠ 0 && !numeral.exponentNegative then
    .refuses .numberOutOfRange
  else .goesOn { numeral with stage := .exponent, exponent }

/-- What a byte does after the whole part or the fraction. The fraction may have room for a digit
again, as a smaller one may fit. -/
def afterDigits (numeral : Numeral) (byte : UInt8) (pointAllowed : Bool) : NumeralStep :=
  if byte = 0x2e && pointAllowed then .goesOn { numeral with stage := .point, full := false }
  else if byte = 0x65 || byte = 0x45 then .goesOn { numeral with stage := .exponentMark }
  else .ends

/-- Read one byte. -/
def step (numeral : Numeral) (byte : UInt8) : NumeralStep :=
  match numeral.stage, digitValue? byte with
  | .sign, some 0 => .goesOn { numeral with stage := .zero }
  | .sign, some digit => .goesOn (numeral.addDigit .whole digit)
  | .sign, none => .refuses .invalidNumber
  | .zero, some _ => .refuses .invalidNumber
  | .zero, none => numeral.afterDigits byte true
  | .whole, some digit => .goesOn (numeral.addDigit .whole digit)
  | .whole, none => numeral.afterDigits byte true
  | .point, some digit => .goesOn (numeral.addDigit .fraction digit)
  | .point, none => .refuses .invalidNumber
  | .fraction, some digit => .goesOn (numeral.addDigit .fraction digit)
  | .fraction, none => numeral.afterDigits byte false
  | .exponentMark, some digit => numeral.addExponentDigit digit
  | .exponentMark, none =>
    if byte = 0x2b then .goesOn { numeral with stage := .exponentSign }
    else if byte = 0x2d then
      .goesOn { numeral with stage := .exponentSign, exponentNegative := true }
    else .refuses .invalidNumber
  | .exponentSign, some digit => numeral.addExponentDigit digit
  | .exponentSign, none => .refuses .invalidNumber
  | .exponent, some digit => numeral.addExponentDigit digit
  | .exponent, none => .ends

/-- The text so far is a number. -/
def isComplete (numeral : Numeral) : Bool :=
  match numeral.stage with
  | .zero | .whole | .fraction | .exponent => true
  | .sign | .point | .exponentMark | .exponentSign => false

/-- The number as a floating point number, if it is finite. -/
def float? (numeral : Numeral) : Option JsonNumber :=
  let exponent : Int :=
    if numeral.exponentNegative then -numeral.exponent else numeral.exponent
  (Binary64.scaled numeral.negative numeral.significand (numeral.scale + exponent)).map .float

/-- The value of a complete number: without point and exponent an integer, if it is not minus zero
and is small enough, else a floating point number, if it is finite. -/
def value? (numeral : Numeral) : Option JsonNumber :=
  match numeral.stage, numeral.full with
  | .zero, false | .whole, false =>
    let value : Int := if numeral.negative then -numeral.significand else numeral.significand
    if numeral.negative ∧ numeral.significand = 0 then numeral.float?
    else if exact : IsExactInteger value then some (.integer value exact)
    else numeral.float?
  | _, _ => numeral.float?

end Numeral

/-! ### Strings -/

/-- What the next byte of a string belongs to. -/
inductive TextMode where
  | plain
  /-- The byte after a backslash. -/
  | escape
  /-- The four digits of a code unit, newest first, after a leading surrogate if there was one. -/
  | codeUnit (leading : Option Nat) (digits : List UInt8)
  /-- The backslash that has to follow a leading surrogate. -/
  | pairBackslash (leading : Nat)
  /-- The letter that has to follow that backslash. -/
  | pairLetter (leading : Nat)
deriving DecidableEq, Repr

/-- The bytes of a string so far, newest first, with escapes resolved. -/
structure TextState where
  bytes : List UInt8 := []
  mode : TextMode := .plain
deriving DecidableEq, Repr

/-- What a byte does to a string. -/
inductive TextStep where
  | goesOn (state : TextState)
  | ends (text : String)
  | refuses (refusal : Refusal)

namespace TextState

/-- The value of a hexadecimal digit. -/
def hexValue? (byte : UInt8) : Option Nat :=
  if 0x30 ≤ byte && byte ≤ 0x39 then some (byte - 0x30).toNat
  else if 0x41 ≤ byte && byte ≤ 0x46 then some (byte - 0x41 + 10).toNat
  else if 0x61 ≤ byte && byte ≤ 0x66 then some (byte - 0x61 + 10).toNat
  else none

/-- The number that hexadecimal digits write, the last of them first. -/
def hexNumber? : List UInt8 → Option Nat
  | [] => some 0
  | byte :: earlier => do
    let digit ← hexValue? byte
    let high ← hexNumber? earlier
    return high * 16 + digit

/-- Add the encoding of a code point and go on with plain text. -/
def push (state : TextState) (code : Nat) : TextStep :=
  .goesOn ⟨(String.utf8EncodeChar (Char.ofNat code)).reverse ++ state.bytes, .plain⟩

/-- The byte after a backslash. -/
def stepEscape (state : TextState) (byte : UInt8) : TextStep :=
  if byte = 0x22 || byte = 0x5c || byte = 0x2f then .goesOn ⟨byte :: state.bytes, .plain⟩
  else if byte = 0x62 then .goesOn ⟨0x08 :: state.bytes, .plain⟩
  else if byte = 0x66 then .goesOn ⟨0x0c :: state.bytes, .plain⟩
  else if byte = 0x6e then .goesOn ⟨0x0a :: state.bytes, .plain⟩
  else if byte = 0x72 then .goesOn ⟨0x0d :: state.bytes, .plain⟩
  else if byte = 0x74 then .goesOn ⟨0x09 :: state.bytes, .plain⟩
  else if byte = 0x75 then .goesOn ⟨state.bytes, .codeUnit none []⟩
  else .refuses ⟨.invalidEscape, 0⟩

/-- A code unit below or above the surrogates is a character; a leading surrogate needs a trailing
one, and the two make a character beyond the first plane. -/
def stepCodeUnit (state : TextState) (leading : Option Nat) (unit : Nat) : TextStep :=
  let isLeading := 0xd800 ≤ unit && unit < 0xdc00
  let isTrailing := 0xdc00 ≤ unit && unit < 0xe000
  match leading with
  | none =>
    if isTrailing then .refuses ⟨.loneSurrogate, 0⟩
    else if isLeading then .goesOn ⟨state.bytes, .pairBackslash unit⟩
    else state.push unit
  | some high =>
    if isTrailing then state.push (0x10000 + (high - 0xd800) * 0x400 + (unit - 0xdc00))
    else .refuses ⟨.loneSurrogate, 0⟩

/-- The text at the closing quotation mark. Its bytes have to encode characters; if they do not, the
position lies as far back as there are bytes, with escapes resolved, from the first one that is not
part of an encoded character. -/
def close (state : TextState) : TextStep :=
  let bytes : ByteArray := ⟨state.bytes.reverse.toArray⟩
  match String.fromUTF8? bytes with
  | some text => .ends text
  | none => .refuses ⟨.invalidEncoding, bytes.size - encodedLength bytes 0⟩

/-- Read one byte. -/
def step (state : TextState) (byte : UInt8) : TextStep :=
  match state.mode with
  | .plain =>
    if byte = 0x22 then state.close
    else if byte = 0x5c then .goesOn ⟨state.bytes, .escape⟩
    else if byte < 0x20 then .refuses ⟨.controlCharacter, 0⟩
    else .goesOn ⟨byte :: state.bytes, .plain⟩
  | .escape => state.stepEscape byte
  | .codeUnit leading digits =>
    if digits.length < 3 then .goesOn ⟨state.bytes, .codeUnit leading (byte :: digits)⟩
    else
      match hexNumber? (byte :: digits) with
      | some unit => state.stepCodeUnit leading unit
      | none => .refuses ⟨.invalidEscape, 0⟩
  | .pairBackslash leading =>
    if byte = 0x5c then .goesOn ⟨state.bytes, .pairLetter leading⟩
    else .refuses ⟨.unfinishedPair, 0⟩
  | .pairLetter leading =>
    if byte = 0x75 then .goesOn ⟨state.bytes, .codeUnit (some leading) []⟩
    else .refuses ⟨.unfinishedPair, 0⟩

end TextState

end StoreTopology

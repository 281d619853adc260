/-
**Reading a JSON value from bytes.**

The reader is a machine that takes one byte at a time. Its state is the containers around the
current place, innermost first, and the phase: what the next byte may belong to.

* `JsonState.step`: what a byte does to the state;
* `JsonState.finish`: the value at the end of the bytes;
* `Json.readWithin`: the value of a text whose containers are nested no deeper than a limit, or the
  first problem with its position. Members keep their order and are not made unique.
-/

import StoreTopology.Json.Scalar

namespace StoreTopology

/-- A container around the current place, with the parts before that place, newest first. -/
inductive JsonFrame where
  | array (before : List Json)
  | member (before : List (String × Json)) (name : String)
deriving Repr

/-- Where a value is expected. -/
inductive ValuePlace where
  | top
  /-- After an opening bracket. -/
  | firstElement
  /-- After a comma in an array. -/
  | nextElement
  /-- After the colon of a member. -/
  | memberValue
deriving DecidableEq, Repr

/-- What the next byte may belong to. -/
inductive JsonPhase where
  /-- A value, after blanks. -/
  | value (place : ValuePlace)
  /-- The further letters of a word that stands for a value. -/
  | word (letters : List UInt8) (value : Json)
  | numeral (numeral : Numeral)
  | text (state : TextState)
  /-- A member, after blanks; the first one may be missing. -/
  | member (before : List (String × Json)) (first : Bool)
  /-- The name of a member. -/
  | name (before : List (String × Json)) (state : TextState)
  /-- The colon after the name of a member, after blanks. -/
  | colon (before : List (String × Json)) (name : String)
  /-- What follows a value, after blanks. -/
  | after (value : Json)
deriving Repr

/-- The containers around the current place, innermost first, and the phase. -/
structure JsonState where
  frames : List JsonFrame
  phase : JsonPhase
deriving Repr

namespace JsonState

/-- Space, tab, line feed and carriage return. -/
def isBlankByte (byte : UInt8) : Bool :=
  byte = 0x20 || byte = 0x09 || byte = 0x0a || byte = 0x0d

def refuse (problem : ReadProblem) : Except Refusal JsonState := .error ⟨problem, 0⟩

/-- What follows a value: the end, a comma or a closing bracket. -/
def stepAfter (frames : List JsonFrame) (value : Json) (byte : UInt8) :
    Except Refusal JsonState :=
  if isBlankByte byte then .ok ⟨frames, .after value⟩
  else match frames with
    | [] => refuse .trailingCharacters
    | .array before :: outer =>
      if byte = 0x2c then .ok ⟨.array (value :: before) :: outer, .value .nextElement⟩
      else if byte = 0x5d then .ok ⟨outer, .after (.array (value :: before).reverse)⟩
      else refuse .expectedElement
    | .member before name :: outer =>
      if byte = 0x2c then .ok ⟨outer, .member ((name, value) :: before) false⟩
      else if byte = 0x7d then .ok ⟨outer, .after (.object ((name, value) :: before).reverse)⟩
      else refuse .expectedMember

/-- The first byte of a value. -/
def stepValue (limit : Nat) (frames : List JsonFrame) (place : ValuePlace) (byte : UInt8) :
    Except Refusal JsonState :=
  if isBlankByte byte then .ok ⟨frames, .value place⟩
  else if byte = 0x5d && place = .firstElement then .ok ⟨frames.tail, .after (.array [])⟩
  else if byte = 0x5d && place = .nextElement then refuse .trailingComma
  else if byte = 0x6e then .ok ⟨frames, .word [0x75, 0x6c, 0x6c] .null⟩
  else if byte = 0x74 then .ok ⟨frames, .word [0x72, 0x75, 0x65] (.bool true)⟩
  else if byte = 0x66 then .ok ⟨frames, .word [0x61, 0x6c, 0x73, 0x65] (.bool false)⟩
  else if byte = 0x22 then .ok ⟨frames, .text {}⟩
  else if byte = 0x2d then .ok ⟨frames, .numeral { negative := true, stage := .sign }⟩
  else if byte = 0x5b then
    if frames.length < limit then .ok ⟨.array [] :: frames, .value .firstElement⟩
    else refuse .tooDeep
  else if byte = 0x7b then
    if frames.length < limit then .ok ⟨frames, .member [] true⟩ else refuse .tooDeep
  else match digitValue? byte with
    | some 0 => .ok ⟨frames, .numeral { negative := false, stage := .zero }⟩
    | some digit =>
      .ok ⟨frames, .numeral { negative := false, stage := .whole, significand := digit }⟩
    | none => refuse .expectedValue

/-- The first byte of a member. -/
def stepMember (frames : List JsonFrame) (before : List (String × Json)) (first : Bool)
    (byte : UInt8) : Except Refusal JsonState :=
  if isBlankByte byte then .ok ⟨frames, .member before first⟩
  else if byte = 0x22 then .ok ⟨frames, .name before {}⟩
  else if byte = 0x7d then
    if first then .ok ⟨frames, .after (.object [])⟩ else refuse .trailingComma
  else refuse .memberWithoutName

/-- Read one byte. -/
def step (limit : Nat) (state : JsonState) (byte : UInt8) : Except Refusal JsonState :=
  let frames := state.frames
  match state.phase with
  | .value place => stepValue limit frames place byte
  | .word [] value => stepAfter frames value byte
  | .word (letter :: letters) value =>
    if byte = letter then
      .ok ⟨frames, if letters.isEmpty then .after value else .word letters value⟩
    else refuse .expectedWord
  | .numeral numeral =>
    match numeral.step byte with
    | .goesOn next => .ok ⟨frames, .numeral next⟩
    | .refuses problem => refuse problem
    | .ends =>
      match numeral.value? with
      | some number => stepAfter frames (.number number) byte
      | none => .error ⟨.numberOutOfRange, 1⟩
  | .text text =>
    match text.step byte with
    | .goesOn next => .ok ⟨frames, .text next⟩
    | .ends string => .ok ⟨frames, .after (.string string)⟩
    | .refuses refusal => .error refusal
  | .member before first => stepMember frames before first byte
  | .name before text =>
    match text.step byte with
    | .goesOn next => .ok ⟨frames, .name before next⟩
    | .ends name => .ok ⟨frames, .colon before name⟩
    | .refuses refusal => .error refusal
  | .colon before name =>
    if isBlankByte byte then .ok state
    else if byte = 0x3a then .ok ⟨.member before name :: frames, .value .memberValue⟩
    else refuse .expectedColon
  | .after value => stepAfter frames value byte

/-- The end of the bytes after a value. -/
def finishAfter (frames : List JsonFrame) (value : Json) : Except ReadProblem Json :=
  match frames with
  | [] => .ok value
  | .array _ :: _ => .error .unfinishedArray
  | .member _ _ :: _ => .error .unfinishedObject

/-- The value at the end of the bytes. -/
def finish (state : JsonState) : Except ReadProblem Json :=
  match state.phase with
  | .value .firstElement => .error .unfinishedArray
  | .value _ => .error .unfinishedValue
  | .word [] value => finishAfter state.frames value
  | .word (_ :: _) _ => .error .unfinishedValue
  | .numeral numeral =>
    if numeral.isComplete then
      match numeral.value? with
      | some number => finishAfter state.frames (.number number)
      | none => .error .numberOutOfRange
    else .error .unfinishedValue
  | .text _ => .error .unfinishedString
  | .member _ true => .error .unfinishedObject
  | .member _ false => .error .unfinishedValue
  | .name _ _ => .error .unfinishedString
  | .colon _ _ => .error .unfinishedObject
  | .after value => finishAfter state.frames value

/-- Read bytes to their end. A problem comes with the count of bytes before its position. -/
def run (limit : Nat) (state : JsonState) (consumed : Nat) :
    List UInt8 → Except (ReadProblem × Nat) Json
  | [] => state.finish.mapError (·, consumed)
  | byte :: rest =>
    match state.step limit byte with
    | .error refusal => .error (refusal.problem, consumed + 1 - refusal.bytesBack)
    | .ok next => run limit next (consumed + 1) rest

end JsonState

namespace Json

/-- The value of a text whose containers are nested no deeper than a limit. -/
def readWithin (limit : Nat) (bytes : List UInt8) : Except ReadError Json :=
  match JsonState.run limit ⟨[], .value .top⟩ 0 bytes with
  | .ok value => .ok value
  | .error (problem, count) =>
    let (line, column) := endPosition (bytes.take count)
    .error ⟨problem, line, column⟩

/-- Containers may be nested this deep in a data file. -/
def depthLimit : Nat := 127

/-- The value of a data file's text. -/
def read (bytes : List UInt8) : Except ReadError Json := readWithin depthLimit bytes

end Json

end StoreTopology

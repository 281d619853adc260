/-
**What can be wrong with the text of a JSON value.**

A problem is reported for the position after the byte that shows it, or some bytes before that, told
by line and column: lines are counted from one, and the column is the number of bytes since the line
began.
-/

namespace StoreTopology

/-- Why a text is refused. -/
inductive ReadProblem where
  | unfinishedArray
  | unfinishedObject
  | unfinishedString
  | unfinishedValue
  | expectedColon
  | expectedElement
  | expectedMember
  | expectedWord
  | expectedValue
  | invalidEscape
  | invalidNumber
  | numberOutOfRange
  | invalidEncoding
  | controlCharacter
  | memberWithoutName
  | loneSurrogate
  | unfinishedPair
  | trailingComma
  | trailingCharacters
  | tooDeep
deriving DecidableEq, Repr

/-- A problem, and how many bytes its position lies before the end of the byte that shows it. -/
structure Refusal where
  problem : ReadProblem
  bytesBack : Nat := 0
deriving DecidableEq, Repr

/-- A problem and its position. -/
structure ReadError where
  problem : ReadProblem
  line : Nat
  column : Nat
deriving DecidableEq, Repr

namespace ReadProblem

def message : ReadProblem → String
  | unfinishedArray => "EOF while parsing a list"
  | unfinishedObject => "EOF while parsing an object"
  | unfinishedString => "EOF while parsing a string"
  | unfinishedValue => "EOF while parsing a value"
  | expectedColon => "expected `:`"
  | expectedElement => "expected `,` or `]`"
  | expectedMember => "expected `,` or `\x7d`"
  | expectedWord => "expected ident"
  | expectedValue => "expected value"
  | invalidEscape => "invalid escape"
  | invalidNumber => "invalid number"
  | numberOutOfRange => "number out of range"
  | invalidEncoding => "invalid unicode code point"
  | controlCharacter => "control character (\\u0000-\\u001F) found while parsing a string"
  | memberWithoutName => "key must be a string"
  | loneSurrogate => "lone leading surrogate in hex escape"
  | unfinishedPair => "unexpected end of hex escape"
  | trailingComma => "trailing comma"
  | trailingCharacters => "trailing characters"
  | tooDeep => "recursion limit exceeded"

end ReadProblem

/-- The line of the end of a text, and the count of bytes on that line. -/
def endPosition (bytes : List UInt8) : Nat × Nat :=
  (1 + bytes.count 0x0a, (bytes.reverse.takeWhile (· ≠ 0x0a)).length)

/-- The end of the encoded characters that follow each other from an offset on. -/
def encodedLength (bytes : ByteArray) (offset : Nat) : Nat :=
  if offset < bytes.size then
    match bytes.utf8DecodeChar? offset with
    | some char => encodedLength bytes (offset + char.utf8Size)
    | none => offset
  else offset
termination_by bytes.size - offset
decreasing_by
  have := char.utf8Size_pos
  omega

namespace ReadError

def message (error : ReadError) : String :=
  error.problem.message ++ " at line " ++ toString error.line ++ " column " ++
    toString error.column

end ReadError

end StoreTopology

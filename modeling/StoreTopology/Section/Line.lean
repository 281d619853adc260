/-
**One line of a configuration.**

A line is blank or a comment, a definition, an opening tag (which may close at once), a closing tag
or an option; any other line is malformed. Types, section names and defined names are read
without regard to case and kept in lowercase. An option keeps the spelling of its key, because
messages show it.
-/

import StoreTopology.Section.Problem
import StoreTopology.Text.Blank
import StoreTopology.Text.Lowercase
import StoreTopology.Text.WordChar

namespace StoreTopology

open Text

/-- What one line says. -/
inductive Line where
  /-- A blank line or a comment. -/
  | blank
  /-- A definition of a name, with the value as it is written. -/
  | definition (name : String) (value : List Char)
  /-- An opening tag. -/
  | openTag (typeName : String) (name : Option String)
  /-- A tag that opens and closes an empty section. -/
  | emptyTag (typeName : String) (name : Option String)
  /-- A closing tag. -/
  | closeTag (typeName : String)
  /-- An option, with the key and the value as they are written. -/
  | option (key : String) (value : List Char)
deriving DecidableEq, Repr

namespace Line

/-! ### Names -/

/-- A type, key or definition begins with an ASCII letter or an underscore. -/
def isNameStart (c : Char) : Bool := c.isAlpha || c = '_'

/-- A type or key goes on with word characters, full stops and hyphens. -/
def isNameChar (c : Char) : Bool := isWordChar c || c = '.' || c = '-'

/-- Split a text after the longest name at its beginning. -/
def splitName (text : List Char) : Option (List Char × List Char) :=
  match text with
  | [] => none
  | c :: rest =>
    if isNameStart c then some (c :: rest.takeWhile isNameChar, rest.dropWhile isNameChar)
    else none

/-- The whole text is a name. -/
def isName (text : List Char) : Bool := splitName text = some (text, [])

/-- A section name may hold all but blanks, slashes and closing brackets. -/
def isSectionNameChar (c : Char) : Bool := !isBlank c && c ≠ '/' && c ≠ '>'

/-! ### Tags -/

/-- The tag that a type and a name open, by what follows them. -/
def tagEnding (typeName : List Char) (name : Option (List Char)) : List Char → Option Line
  | ['>'] => some (openTag (lowercased (.ofList typeName)) (name.map (lowercased <| .ofList ·)))
  | ['/', '>'] =>
    some (emptyTag (lowercased (.ofList typeName)) (name.map (lowercased <| .ofList ·)))
  | _ => none

/-- The tag of a text after its opening bracket. -/
def readOpenTag (text : List Char) : Option Line := do
  let (typeName, rest) ← splitName (trimStart text)
  let next := trimStart rest
  let name := next.takeWhile isSectionNameChar
  if rest.head?.any isBlank && !name.isEmpty then
    tagEnding typeName (some name) (trimStart (next.dropWhile isSectionNameChar))
  else
    tagEnding typeName none next

/-- The closing tag of a text after its opening bracket and slash. -/
def readCloseTag (text : List Char) : Option Line := do
  let (typeName, rest) ← splitName (trimStart text)
  if trimStart rest = ['>'] then some (closeTag (lowercased (.ofList typeName))) else none

/-! ### Definitions -/

/-- A defined name begins with a letter that is an ASCII letter without regard to case, or with an
underscore. Besides the ASCII letters these are the Kelvin sign and the long s. -/
def isDefinableStart (c : Char) : Bool := isNameStart c || c = '\u212a' || c = '\u017f'

/-- The definition of a text that begins with a percent sign. -/
def readDefinition (text : List Char) : Option Line :=
  if (text.take 7).map Char.toLower = ['%', 'd', 'e', 'f', 'i', 'n', 'e'] then
    let rest := text.drop 7
    match trimStart rest with
    | [] => none
    | c :: more =>
      let value := more.dropWhile isWordChar
      if rest.head?.any isBlank && isDefinableStart c &&
          (value.isEmpty || value.head?.any isBlank) then
        some (definition (lowercased (.ofList (c :: more.takeWhile isWordChar))) (trim value))
      else none
  else none

/-! ### Options -/

/-- The option of a text: a key up to the first blank, and the value after it. -/
def readOption (text : List Char) : Except ParseProblem Line :=
  let key := text.takeWhile fun c => !isBlank c
  let value := trim (text.dropWhile fun c => !isBlank c)
  if isName key then
    if value.isEmpty then .error (.missingValue (.ofList key)) else .ok (option (.ofList key) value)
  else .error (.malformedOption (.ofList text))

/-! ### All lines -/

/-- What a line says, blanks at its ends apart. -/
def classify (raw : List Char) : Except ParseProblem Line :=
  let text := trim raw
  match text with
  | [] => .ok blank
  | '#' :: _ => .ok blank
  | '%' :: _ =>
    match readDefinition text with
    | some line => .ok line
    | none => .error (.unknownDirective (.ofList text))
  | '<' :: '/' :: rest =>
    match readCloseTag rest with
    | some line => .ok line
    | none => .error (.malformedEnd (.ofList text))
  | '<' :: rest =>
    match readOpenTag rest with
    | some line => .ok line
    | none => .error (.malformedStart (.ofList text))
  | _ => readOption text

/-- Blanks at the ends of a line do not matter. -/
theorem classify_trim (raw : List Char) : classify (trim raw) = classify raw := by
  rw [classify, classify, trim_trim]

end Line

end StoreTopology

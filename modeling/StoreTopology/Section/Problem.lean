/-
**What can be wrong with the text of a configuration.**

Each cause carries the part of the text that shows it, and `ParseProblem.message` gives its wording.
-/

namespace StoreTopology

/-- Why a line, or the end of the text, is refused. -/
inductive ParseProblem where
  /-- A line begins like an opening tag and is none. -/
  | malformedStart (text : String)
  /-- A line begins like a closing tag and is none. -/
  | malformedEnd (text : String)
  /-- The first word of an option line is no key. -/
  | malformedOption (text : String)
  /-- A key stands alone on its line. -/
  | missingValue (key : String)
  /-- A line begins with a percent sign and is no definition. -/
  | unknownDirective (text : String)
  /-- A closing tag stands outside of all sections. -/
  | unexpectedEnd (typeName : String)
  /-- A closing tag has another type than the innermost section. -/
  | mismatchedEnd (typeName opened : String) (openLine : Nat)
  /-- A sibling has the same name. -/
  | reusedName (name : String)
  /-- An option line stands outside of all sections. -/
  | strayOption (key : String)
  /-- A name is defined a second time. -/
  | redefinition (name : String)
  /-- A braced reference has no closing brace. -/
  | unterminatedReference
  /-- A dollar sign begins no reference and is not doubled. -/
  | loneDollar
  /-- A reference names nothing that was defined before it. -/
  | undefinedName (name : String)
  /-- The text ends inside a section. -/
  | unclosedSection (typeName : String)
deriving DecidableEq, Repr

namespace ParseProblem

def message : ParseProblem → String
  | malformedStart text => "malformed section start: " ++ text
  | malformedEnd text => "malformed section end: " ++ text
  | malformedOption text => "malformed option line: " ++ text
  | missingValue key => "missing value for option '" ++ key ++ "'"
  | unknownDirective text => "unknown directive: " ++ text
  | unexpectedEnd typeName => "unexpected section end: </" ++ typeName ++ ">"
  | mismatchedEnd typeName opened openLine =>
    "</" ++ typeName ++ "> does not close <" ++ opened ++ "> opened on line " ++ toString openLine
  | reusedName name =>
    "section names must not be re-used within the same container:'" ++ name ++ "'"
  | strayOption key => "option '" ++ key ++ "' outside of any section"
  | redefinition name => "cannot redefine '" ++ name ++ "'"
  | unterminatedReference => "unterminated $\x7b...\x7d substitution"
  | loneDollar => "illegal lone '$' in value"
  | undefinedName name => "undefined substitution name '" ++ name ++ "'"
  | unclosedSection typeName => "unclosed section <" ++ typeName ++ ">"

end ParseProblem

/-- A problem with the line that it is reported for. -/
structure ParseError where
  problem : ParseProblem
  line : Nat
deriving DecidableEq, Repr

end StoreTopology

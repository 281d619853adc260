/-
**The sections of a text.**

The lines of a text are read one after another into an outline: the names defined so far, the
sections that are still open, innermost first, and the finished top-level sections.

* `Outline.add`: what one line does to the outline, or why it may not stand there;
* `parse`: the top-level sections of a text, or the first problem with its line. A section that
  the end of the text leaves open is reported for the line of its opening tag.
-/

import StoreTopology.Section.Basic
import StoreTopology.Section.Line
import StoreTopology.Section.Token

namespace StoreTopology

open Text

/-- A section whose closing tag has not come yet. Its lines and children are kept newest first. -/
structure OpenSection where
  typeName : String
  name : Option String
  line : Nat
  options : List OptionLine := []
  children : List Section := []

/-- The section that a closing tag makes of an open one. -/
def OpenSection.close (opened : OpenSection) (endLine : Nat) : Section where
  typeName := opened.typeName
  name := opened.name
  options := opened.options.reverse
  children := opened.children.reverse
  line := opened.line
  endLine := endLine

/-- What the lines read so far amount to. -/
structure Outline where
  definitions : Definitions := .empty
  /-- The open sections, innermost first. -/
  enclosing : List OpenSection := []
  /-- The finished top-level sections, newest first. -/
  roots : List Section := []

namespace Outline

/-- Some section among siblings has this name. -/
def nameTaken (name : String) (siblings : List Section) : Bool :=
  siblings.any fun sibling => sibling.name = some name

/-- The siblings with a finished section in front, unless its name is taken. -/
def addSibling (block : Section) (siblings : List Section) : Except ParseProblem (List Section) :=
  match block.name with
  | none => .ok (block :: siblings)
  | some name =>
    if nameTaken name siblings then .error (.reusedName name) else .ok (block :: siblings)

/-- Put a finished section into the innermost open section, or at the top level. -/
def attach (outline : Outline) (block : Section) : Except ParseProblem Outline :=
  match outline.enclosing with
  | [] => do
    let roots ← addSibling block outline.roots
    return { outline with roots }
  | parent :: outer => do
    let children ← addSibling block parent.children
    return { outline with enclosing := { parent with children } :: outer }

/-- Finish the innermost open section. -/
def closeInnermost (outline : Outline) (typeName : String) (number : Nat) :
    Except ParseProblem Outline :=
  match outline.enclosing with
  | [] => .error (.unexpectedEnd typeName)
  | opened :: outer =>
    if opened.typeName = typeName then
      attach { outline with enclosing := outer } (opened.close number)
    else .error (.mismatchedEnd typeName opened.typeName opened.line)

/-- Give a name its value, once. -/
def define (outline : Outline) (name : String) (value : List Char) :
    Except ParseProblem Outline := do
  let value ← substitute outline.definitions value
  if outline.definitions.contains name then .error (.redefinition name)
  else return { outline with definitions := outline.definitions.insert name (.ofList value) }

/-- Add an option line to the innermost open section. -/
def addOption (outline : Outline) (key : String) (value : List Char) (number : Nat) :
    Except ParseProblem Outline := do
  let value ← substitute outline.definitions value
  match outline.enclosing with
  | [] => .error (.strayOption key)
  | opened :: outer =>
    let line : OptionLine := ⟨lowercased key, .ofList value, number⟩
    return { outline with enclosing := { opened with options := line :: opened.options } :: outer }

/-- What a line does to the outline. -/
def add (outline : Outline) (number : Nat) : Line → Except ParseProblem Outline
  | .blank => .ok outline
  | .definition name value => outline.define name value
  | .openTag typeName name =>
    .ok { outline with enclosing := { typeName, name, line := number } :: outline.enclosing }
  | .emptyTag typeName name =>
    outline.attach (OpenSection.close { typeName, name, line := number } number)
  | .closeTag typeName => outline.closeInnermost typeName number
  | .option key value => outline.addOption key value number

/-- Read one line as it is written. -/
def readLine (outline : Outline) (number : Nat) (raw : List Char) : Except ParseError Outline :=
  match Line.classify raw with
  | .error problem => .error ⟨problem, number⟩
  | .ok line =>
    match outline.add number line with
    | .error problem => .error ⟨problem, number⟩
    | .ok next => .ok next

/-- Read lines in turn, the first of them having the given number. -/
def readLines (outline : Outline) (number : Nat) : List (List Char) → Except ParseError Outline
  | [] => .ok outline
  | raw :: rest =>
    match outline.readLine number raw with
    | .error error => .error error
    | .ok next => next.readLines (number + 1) rest

/-- The top-level sections, if none is left open. -/
def finish (outline : Outline) : Except ParseError (List Section) :=
  match outline.enclosing with
  | [] => .ok outline.roots.reverse
  | opened :: _ => .error ⟨.unclosedSection opened.typeName, opened.line⟩

end Outline

/-- The sections of a list of lines. -/
def parseLines (lines : List (List Char)) : Except ParseError (List Section) :=
  match Outline.readLines {} 1 lines with
  | .error error => .error error
  | .ok outline => outline.finish

/-- The sections of a text. -/
def parse (text : String) : Except ParseError (List Section) := parseLines (lines text.toList)

end StoreTopology

/-
**Paths.**

A path is a text; slashes separate its steps. A step goes to an entry of the current directory, to
the directory above, or stays (`.`). Slashes in a row count once, and one at the end asks for a
directory.

* `Path.read`: the steps of a text, unless it is empty, too long or holds the character NUL;
* `Path.ancestors`: the paths of the directories that a path leads through, the nearest first.
-/

import StoreTopology.FileTree.Problem

namespace StoreTopology

/-- One step of a path. -/
inductive PathStep where
  | stay
  | up
  | down (name : String)
deriving DecidableEq, Repr

/-- The steps of a path, and whether a slash follows them. -/
structure Path where
  steps : List PathStep
  slash : Bool
deriving DecidableEq, Repr

namespace Path

/-- The parts of a text between slashes. -/
def splitSlashes : List Char → List (List Char)
  | [] => [[]]
  | c :: rest =>
    if c = '/' then [] :: splitSlashes rest
    else match splitSlashes rest with
      | [] => [[c]]
      | part :: parts => (c :: part) :: parts

/-- The step that a part of a path asks for. -/
def stepOf (part : List Char) : Option PathStep :=
  match part with
  | [] => none
  | ['.'] => some .stay
  | ['.', '.'] => some .up
  | name => some (.down (.ofList name))

/-- Longer paths are refused. -/
def lengthLimit : Nat := 4095

/-- The steps of a text. -/
def read (text : String) : Except FileProblem Path :=
  if '\x00' ∈ text.toList then .error .containsNul
  else if text.isEmpty then .error .notFound
  else if lengthLimit < text.utf8ByteSize then .error .nameTooLong
  else .ok ⟨(splitSlashes text.toList).filterMap stepOf, text.toList.getLast? = some '/'⟩

/-- The steps without those that stay, a first one apart. -/
def normalSteps (steps : List PathStep) : List PathStep :=
  match steps with
  | [] => []
  | first :: rest => first :: rest.filter (· ≠ .stay)

/-- The paths of the directories that a path leads through, the nearest first. -/
def ancestors (path : Path) : List Path :=
  let steps := normalSteps path.steps
  ((List.range steps.length).tail.reverse).map fun count => ⟨steps.take count, false⟩

end Path

end StoreTopology

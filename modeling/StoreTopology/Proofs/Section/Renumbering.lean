/-
**Lines that are counted in another way.**

The number of a line is only noted: no line is read in another way, or refused for another reason,
because of where it stands.

* `Section.renumbered`, `Outline.renumbered`, `ParseError.renumbered`: what was read, with other
  numbers in the place of those of its lines;
* `Outline.add_renumbered`: what a line does to an outline with other numbers;
* `Outline.readLines_renumbered`: lines with other numbers are read to the same, with other numbers.
-/

import StoreTopology.Proofs.Section.FirstProblem

namespace StoreTopology

open Text

/-! ### Other numbers -/

section Numbers

variable (f : Nat → Nat)

/-- The option line with another number. -/
def OptionLine.renumbered (option : OptionLine) : OptionLine :=
  { option with line := f option.line }

mutual

/-- The section with other numbers of lines, in all that is in it too. -/
def Section.renumbered : Section → Section
  | ⟨typeName, name, options, children, line, endLine⟩ =>
    ⟨typeName, name, options.map (OptionLine.renumbered f), renumberedAll children, f line,
      f endLine⟩

def renumberedAll : List Section → List Section
  | [] => []
  | block :: rest => block.renumbered :: renumberedAll rest

end

/-- The open section with other numbers of lines. -/
def OpenSection.renumbered (opened : OpenSection) : OpenSection where
  typeName := opened.typeName
  name := opened.name
  line := f opened.line
  options := opened.options.map (OptionLine.renumbered f)
  children := opened.children.map (Section.renumbered f)

/-- The outline with other numbers of lines. -/
def Outline.renumbered (outline : Outline) : Outline where
  definitions := outline.definitions
  enclosing := outline.enclosing.map (OpenSection.renumbered f)
  roots := outline.roots.map (Section.renumbered f)

/-- The problem with another number for the line that it tells of. -/
def ParseProblem.renumbered : ParseProblem → ParseProblem
  | mismatchedEnd typeName opened openLine => mismatchedEnd typeName opened (f openLine)
  | problem => problem

/-- The error with other numbers of lines. -/
def ParseError.renumbered (error : ParseError) : ParseError :=
  ⟨error.problem.renumbered f, f error.line⟩

/-- An outline, or the problem of a line, with other numbers of lines. -/
def renumberedPlace (result : Except ParseProblem Outline) : Except ParseProblem Outline :=
  (result.map (Outline.renumbered f)).mapError (ParseProblem.renumbered f)

end Numbers

variable {f : Nat → Nat}

theorem Section.renumbered_name (block : Section) : (block.renumbered f).name = block.name := by
  cases block
  rfl

theorem renumberedAll_eq_map (forest : List Section) :
    renumberedAll f forest = forest.map (Section.renumbered f) := by
  induction forest with
  | nil => rfl
  | cons block rest ih => rw [renumberedAll, ih, List.map_cons]

theorem OpenSection.close_renumbered (opened : OpenSection) (number : Nat) :
    (opened.renumbered f).close (f number) = (opened.close number).renumbered f := by
  unfold close renumbered
  rw [Section.renumbered, renumberedAll_eq_map, List.map_reverse, List.map_reverse]

/-- A problem of what a line says tells of no other line. -/
theorem ParseProblem.renumbered_of_isOfSections {problem : ParseProblem}
    (other : problem.isOfSections = false) : problem.renumbered f = problem := by
  cases problem with
  | mismatchedEnd typeName opened openLine => cases other
  | _ => rfl

/-! ### One line -/

namespace Outline

theorem nameTaken_renumbered (name : String) (siblings : List Section) :
    nameTaken name (siblings.map (Section.renumbered f)) = nameTaken name siblings := by
  unfold nameTaken
  rw [List.any_map]
  refine List.any_congr rfl fun sibling => ?_
  rw [Function.comp, Section.renumbered_name]

/-- A section finds its place among siblings whatever the numbers of lines. -/
theorem addSibling_renumbered (block : Section) (siblings : List Section) :
    addSibling (block.renumbered f) (siblings.map (Section.renumbered f)) =
      ((addSibling block siblings).map (List.map (Section.renumbered f))).mapError
        (ParseProblem.renumbered f) := by
  unfold addSibling
  rw [Section.renumbered_name]
  cases block.name with
  | none => rfl
  | some name =>
    dsimp only
    rw [nameTaken_renumbered]
    split
    · rfl
    · rfl

theorem attach_renumbered (outline : Outline) (block : Section) :
    (outline.renumbered f).attach (block.renumbered f) =
      renumberedPlace f (outline.attach block) := by
  obtain ⟨definitions, enclosing, roots⟩ := outline
  cases enclosing with
  | nil =>
    show (addSibling (block.renumbered f) (roots.map _) >>= _) = _
    rw [addSibling_renumbered]
    unfold attach
    cases addSibling block roots with
    | error problem => rfl
    | ok siblings => rfl
  | cons parent outer =>
    show (addSibling (block.renumbered f) (parent.children.map _) >>= _) = _
    rw [addSibling_renumbered]
    unfold attach
    dsimp only
    cases addSibling block parent.children with
    | error problem => rfl
    | ok siblings => rfl

theorem closeInnermost_renumbered (outline : Outline) (typeName : String) (number : Nat) :
    (outline.renumbered f).closeInnermost typeName (f number) =
      renumberedPlace f (outline.closeInnermost typeName number) := by
  obtain ⟨definitions, enclosing, roots⟩ := outline
  cases enclosing with
  | nil => rfl
  | cons opened outer =>
    unfold closeInnermost
    by_cases same : opened.typeName = typeName
    · show (if _ then _ else _) = renumberedPlace f (if _ then _ else _)
      have sameThere : (opened.renumbered f).typeName = typeName := same
      rw [if_pos same, if_pos sameThere, OpenSection.close_renumbered]
      exact attach_renumbered ⟨definitions, outer, roots⟩ _
    · show (if _ then _ else _) = renumberedPlace f (if _ then _ else _)
      have differThere : ¬(opened.renumbered f).typeName = typeName := same
      rw [if_neg same, if_neg differThere]
      rfl

/-- A value is refused for the same reason. -/
theorem error_of_substitute {definitions : Definitions} {value : List Char}
    {problem : ParseProblem} (refused : substitute definitions value = .error problem) :
    renumberedPlace f (.error problem) = .error problem := by
  show Except.error (problem.renumbered f) = _
  rw [ParseProblem.renumbered_of_isOfSections (isOfSections_of_expand refused)]

/-- A line does the same to an outline with other numbers. -/
theorem add_renumbered (outline : Outline) (number : Nat) (line : Line) :
    (outline.renumbered f).add (f number) line = renumberedPlace f (outline.add number line) := by
  cases line with
  | blank => rfl
  | openTag typeName name => rfl
  | emptyTag typeName name =>
    have empty := OpenSection.close_renumbered (f := f) { typeName, name, line := number } number
    exact (congrArg (outline.renumbered f).attach empty).trans (attach_renumbered outline _)
  | closeTag typeName => exact closeInnermost_renumbered outline typeName number
  | definition name value =>
    show (substitute outline.definitions value >>= _) = renumberedPlace f (outline.define name value)
    unfold define
    cases replaced : substitute outline.definitions value with
    | error problem => exact (error_of_substitute replaced).symm
    | ok text =>
      show (if _ then _ else _) = renumberedPlace f (if _ then _ else _)
      by_cases taken : outline.definitions.contains name = true
      · have takenThere : (outline.renumbered f).definitions.contains name = true := taken
        rw [if_pos taken, if_pos takenThere]
        rfl
      · have freeThere : ¬(outline.renumbered f).definitions.contains name = true := taken
        rw [if_neg taken, if_neg freeThere]
        rfl
  | option key value =>
    show (substitute outline.definitions value >>= _) =
      renumberedPlace f (outline.addOption key value number)
    unfold addOption
    cases replaced : substitute outline.definitions value with
    | error problem => exact (error_of_substitute replaced).symm
    | ok text =>
      obtain ⟨definitions, enclosing, roots⟩ := outline
      cases enclosing with
      | nil => rfl
      | cons opened outer => rfl

theorem readLine_renumbered (outline : Outline) (number : Nat) (raw : List Char) :
    (outline.renumbered f).readLine (f number) raw =
      ((outline.readLine number raw).map (Outline.renumbered f)).mapError
        (ParseError.renumbered f) := by
  unfold readLine
  cases classified : Line.classify raw with
  | error problem =>
    have same := ParseProblem.renumbered_of_isOfSections (f := f)
      (isOfSections_of_classify classified)
    show Except.error (ParseError.mk problem (f number)) =
      .error ⟨problem.renumbered f, f number⟩
    rw [same]
  | ok line =>
    dsimp only
    rw [add_renumbered]
    cases outline.add number line with
    | error problem => rfl
    | ok next => rfl

/-! ### All lines -/

/-- **The number of a line is only noted.** Lines with other numbers are read to the same, with other
numbers. -/
theorem readLines_renumbered (outline : Outline) {number other : Nat} {raws : List (List Char)}
    (counted : ∀ i < raws.length, f (number + i) = other + i) :
    (outline.renumbered f).readLines other raws =
      ((outline.readLines number raws).map (Outline.renumbered f)).mapError
        (ParseError.renumbered f) := by
  induction raws generalizing outline number other with
  | nil => rfl
  | cons raw rest ih =>
    have here : f number = other := counted 0 (Nat.succ_pos _)
    have later : ∀ i < rest.length, f (number + 1 + i) = other + 1 + i := by
      intro i within
      rw [Nat.add_right_comm, Nat.add_assoc, Nat.add_right_comm other]
      exact counted (i + 1) (Nat.succ_lt_succ within)
    have first := readLine_renumbered (f := f) outline number raw
    rw [here] at first
    cases reads : outline.readLine number raw with
    | error error =>
      rw [reads] at first
      rw [readLines_cons_of_error first, readLines_cons_of_error reads]
      rfl
    | ok next =>
      rw [reads] at first
      rw [readLines_cons_of_ok first, readLines_cons_of_ok reads]
      exact ih next later

theorem finish_renumbered (outline : Outline) :
    (outline.renumbered f).finish =
      (outline.finish.map (List.map (Section.renumbered f))).mapError (ParseError.renumbered f) := by
  obtain ⟨definitions, enclosing, roots⟩ := outline
  cases enclosing with
  | nil =>
    show Except.ok (roots.map _).reverse = .ok (roots.reverse.map _)
    rw [List.map_reverse]
  | cons opened outer => rfl

end Outline

end StoreTopology

/-
**Sections further down in a text.**

* `Section.moved`: a section with all its lines moved down;
* `contents_moved`: lines that stand further down describe the same, moved down;
* `Contents.append`: lines describe what their parts describe;
* `exists_classify_enclosed`: between two tags, the lines of a text say what they say in the text;
* `exists_parse_enclosed`: a text between two tags has its own sections inside of another one, moved
  down by one line.
-/

import StoreTopology.Proofs.Section.Contents
import StoreTopology.Proofs.Section.WrittenLine
import StoreTopology.Proofs.Text.Cutting

namespace StoreTopology

open Text

/-- The option line so many lines further down. -/
def OptionLine.moved (count : Nat) (option : OptionLine) : OptionLine :=
  { option with line := option.line + count }

mutual

/-- The section so many lines further down, with all that is in it. -/
def Section.moved (count : Nat) : Section → Section
  | ⟨typeName, name, options, children, line, endLine⟩ =>
    ⟨typeName, name, options.map (OptionLine.moved count), movedAll count children, line + count,
      endLine + count⟩

def movedAll (count : Nat) : List Section → List Section
  | [] => []
  | block :: rest => block.moved count :: movedAll count rest

end

variable {number count : Nat} {settled more : List Line} {options others : List OptionLine}
  {children blocks forest : List Section}

namespace Section

theorem moved_typeName (count : Nat) (block : Section) :
    (block.moved count).typeName = block.typeName := by
  cases block
  rfl

theorem moved_name (count : Nat) (block : Section) : (block.moved count).name = block.name := by
  cases block
  rfl

theorem moved_options (count : Nat) (block : Section) :
    (block.moved count).options = block.options.map (OptionLine.moved count) := by
  cases block
  rfl

theorem moved_line (count : Nat) (block : Section) :
    (block.moved count).line = block.line + count := by
  cases block
  rfl

theorem movedAll_eq_map (count : Nat) (forest : List Section) :
    movedAll count forest = forest.map (Section.moved count) := by
  induction forest with
  | nil => rfl
  | cons block rest ih => rw [movedAll, ih, List.map_cons]

theorem moved_mk (typeName : String) (name : Option String) (options : List OptionLine)
    (children : List Section) (line endLine : Nat) :
    Section.moved count ⟨typeName, name, options, children, line, endLine⟩ =
      ⟨typeName, name, options.map (OptionLine.moved count), children.map (Section.moved count),
        line + count, endLine + count⟩ := by
  rw [moved, movedAll_eq_map]

theorem moved_children (count : Nat) (block : Section) :
    (block.moved count).children = block.children.map (Section.moved count) := by
  cases block
  exact movedAll_eq_map count _

end Section

theorem distinctNames_moved :
    DistinctNames (forest.map (Section.moved count)) ↔ DistinctNames forest :=
  distinctNames_map (Section.moved_name count)

/-! ### Lines further down -/

/-- Lines that stand further down describe the same, moved down. -/
theorem contents_moved (contents : Contents number settled options children) (count : Nat) :
    Contents (number + count) settled (options.map (OptionLine.moved count))
      (children.map (Section.moved count)) := by
  induction contents with
  | nil number => exact .nil _
  | blank _ ih =>
    rw [Nat.add_right_comm] at ih
    exact .blank ih
  | definition _ ih =>
    rw [Nat.add_right_comm] at ih
    exact .definition ih
  | option _ ih =>
    rw [Nat.add_right_comm] at ih
    exact .option ih
  | emptyTag _ ih =>
    rw [Nat.add_right_comm] at ih
    exact .emptyTag ih
  | @block number typeName name inside rest ownOptions options ownChildren children _ distinct _
      ihOwn ih =>
    rw [Nat.add_right_comm] at ihOwn
    have later : number + inside.length + 2 + count = number + count + inside.length + 2 := by omega
    have ends : number + inside.length + 1 + count = number + count + inside.length + 1 := by omega
    rw [later] at ih
    rw [List.map_cons, Section.moved_mk, ends]
    exact .block ihOwn (distinctNames_moved.mpr distinct) ih

/-- Lines describe what their parts describe. -/
theorem Contents.append (contents : Contents number settled options children)
    (later : Contents (number + settled.length) more others blocks) :
    Contents number (settled ++ more) (options ++ others) (children ++ blocks) := by
  induction contents with
  | nil number => exact later
  | blank _ ih =>
    rw [add_length_cons] at later
    exact .blank (ih later)
  | definition _ ih =>
    rw [add_length_cons] at later
    exact .definition (ih later)
  | option _ ih =>
    rw [add_length_cons] at later
    exact .option (ih later)
  | emptyTag _ ih =>
    rw [add_length_cons] at later
    exact .emptyTag (ih later)
  | @block number typeName name inside rest _ _ _ _ own distinct _ _ ih =>
    rw [add_length_block] at later
    rw [List.cons_append, List.append_assoc, List.cons_append]
    exact .block own distinct (ih later)

/-! ### Texts between two tags -/

/-- A text between the tags of a section without a name. -/
def enclosed (typeName text : String) : String :=
  .ofList (Line.openText typeName none ++ '\n' :: (text.toList ++ '\n' :: Line.closeText typeName))

/-- Lines that differ in blanks at their ends say the same. -/
theorem map_classify_of_trim {raws others : List (List Char)}
    (same : List.Forall₂ (fun raw other => trim raw = trim other) raws others) :
    raws.map Line.classify = others.map Line.classify := by
  induction same with
  | nil => rfl
  | cons first _ ih =>
    rw [List.map_cons, List.map_cons, ih, ← Line.classify_trim, first, Line.classify_trim]

theorem map_classify_of_sameLine {raws others : List (List Char)}
    (same : List.Forall₂ SameLine raws others) :
    raws.map Line.classify = others.map Line.classify :=
  map_classify_of_trim (same.imp fun _ _ => SameLine.trim_eq)

/-- Between two tags, the lines of a text say what they say in the text, but for a blank line at the
end. -/
theorem exists_classify_enclosed {typeName : String} (isType : Line.IsOwnName typeName)
    (text : String) :
    ∃ blanks, (lines (enclosed typeName text).toList).map Line.classify =
      .ok (.openTag typeName none) :: ((lines text.toList).map Line.classify ++
        (blanks ++ [.closeTag typeName]).map .ok) ∧ (blanks = [] ∨ blanks = [.blank]) := by
  have noName : ∀ text ∈ (none : Option String), Line.IsOwnSectionName text :=
    fun _ absent => nomatch absent
  have ending : lines (Line.closeText typeName) = [Line.closeText typeName] :=
    lines_of_noLineFeed (Line.isLine_closeText isType).noLineFeed (List.cons_ne_nil _ _)
  obtain ⟨raws, ended, noLineFeed⟩ := exists_takenAs text.toList
  obtain ⟨extra, isExtra, sameText⟩ := TakenAs.lines ⟨.inr ended, noLineFeed⟩
  obtain ⟨own, split, same⟩ := exists_lines_joined noLineFeed (Line.closeText typeName)
  have whole : (enclosed typeName text).toList =
      Line.openText typeName none ++ '\n' :: (joined raws ++ Line.closeText typeName) := by
    rw [enclosed, String.toList_ofList, ← ended, List.append_assoc, List.singleton_append]
  rw [whole, lines_append_lineFeed (Line.isLine_openText isType noName), split, ending,
    List.map_cons, List.map_append, Line.classify_openText isType noName,
    map_classify_of_sameLine same, ← map_classify_of_sameLine sameText, List.map_append,
    List.append_assoc, List.map_singleton, Line.classify_closeText isType]
  rcases isExtra with rfl | rfl
  · exact ⟨[], rfl, .inl rfl⟩
  · exact ⟨[.blank], rfl, .inr rfl⟩

/-- **A text between two tags has its own sections inside of another one**, moved down by a line. -/
theorem exists_parse_enclosed {typeName text : String} (isType : Line.IsOwnName typeName)
    (parsed : parse text = .ok forest) :
    ∃ last, parse (enclosed typeName text) =
      .ok [⟨typeName, none, [], forest.map (Section.moved 1), 1, last⟩] := by
  obtain ⟨said, settled, definitions, classified, settles, contents, distinct⟩ :=
    parseLines_eq_ok_iff_contents.mp parsed
  obtain ⟨blanks, around, isBlanks⟩ := exists_classify_enclosed isType text
  have nothing : Contents (1 + 1 + settled.length) blanks [] [] := by
    rcases isBlanks with rfl | rfl
    · exact .nil _
    · exact .blank (.nil _)
  have settlesEnd : settleAll definitions (blanks ++ [.closeTag typeName]) =
      .ok (blanks ++ [.closeTag typeName], definitions) := by
    rcases isBlanks with rfl | rfl
    · rfl
    · rfl
  have inside := (contents_moved contents 1).append nothing
  rw [List.map_nil, List.append_nil, List.append_nil] at inside
  have whole : Contents 1 (.openTag typeName none :: (settled ++ blanks ++ [.closeTag typeName])) []
      [⟨typeName, none, [], forest.map (Section.moved 1), 1, _⟩] :=
    .block inside (distinctNames_moved.mpr distinct) (.nil _)
  rw [List.append_assoc] at whole
  refine ⟨_, parseLines_eq_ok_iff_contents.mpr
    ⟨.openTag typeName none :: (said ++ (blanks ++ [.closeTag typeName])), _, definitions, ?_, ?_,
      whole, .nil⟩⟩
  · rw [around, classified, ← List.map_append, List.map_cons]
  · exact settleAll_cons_iff.mpr ⟨_, .empty, _, rfl,
      settleAll_append_iff.mpr ⟨settled, definitions, _, settles, settlesEnd, rfl⟩, rfl⟩

end StoreTopology

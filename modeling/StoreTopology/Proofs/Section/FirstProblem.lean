/-
**The first line that is wrong is the one that counts.**

A text is read line by line, and reading stops at the first line that is refused. Only a section that
is left open is not found before the end of the text.

* `Outline.line_of_readLine`: a line is refused for itself, and never for a section that is left
  open;
* `Outline.exists_split_of_readLines`: lines are refused for one of them, those before it being read;
* `FirstProblem`, `LastUnclosed`: what is known of a text that is refused for a line, or for its end;
* `parse_firstProblem`: whatever follows the first line that is wrong, the text is refused for it.
-/

import StoreTopology.Proofs.Section.Unclosed
import StoreTopology.Proofs.Text.Cutting

namespace StoreTopology

open Text

/-- The problem lies in the sections that a line stands among, not in what the line says. -/
def ParseProblem.isOfSections : ParseProblem → Bool
  | unexpectedEnd _ | mismatchedEnd _ _ _ | reusedName _ | strayOption _ | unclosedSection _ => true
  | malformedStart _ | malformedEnd _ | malformedOption _ | missingValue _ | unknownDirective _
  | redefinition _ | unterminatedReference | loneDollar | undefinedName _ => false

/-- A section is left open. -/
def ParseProblem.isUnclosed : ParseProblem → Bool
  | unclosedSection _ => true
  | _ => false

theorem ParseProblem.isUnclosed_of_isOfSections {problem : ParseProblem}
    (other : problem.isOfSections = false) : problem.isUnclosed = false := by
  cases problem with
  | unclosedSection typeName => cases other
  | _ => rfl

/-! ### Lines that are refused -/

theorem isOfSections_of_readOption {text : List Char} {problem : ParseProblem}
    (refused : Line.readOption text = .error problem) : problem.isOfSections = false := by
  unfold Line.readOption at refused
  dsimp only at refused
  split at refused
  · split at refused
    · cases refused
      rfl
    · cases refused
  · cases refused
    rfl

theorem isOfSections_of_classify {raw : List Char} {problem : ParseProblem}
    (refused : Line.classify raw = .error problem) : problem.isOfSections = false := by
  unfold Line.classify at refused
  dsimp only at refused
  split at refused
  · cases refused
  · cases refused
  · split at refused
    · cases refused
    · cases refused
      rfl
  · split at refused
    · cases refused
    · cases refused
      rfl
  · split at refused
    · cases refused
    · cases refused
      rfl
  · exact isOfSections_of_readOption refused

theorem isOfSections_of_meaning {definitions : Definitions} {token : Token} {problem : ParseProblem}
    (refused : token.meaning definitions = .error problem) : problem.isOfSections = false := by
  have ofName : ∀ {name : List Char},
      Token.meaning.lookUp definitions name = .error problem → problem.isOfSections = false := by
    intro name refused
    unfold Token.meaning.lookUp at refused
    split at refused
    · cases refused
    · cases refused
      rfl
  cases token with
  | plain c => cases refused
  | dollar => cases refused
  | bare name => exact ofName refused
  | braced name => exact ofName refused
  | unterminated rest =>
    cases refused
    rfl
  | lone rest =>
    cases refused
    rfl

theorem isOfSections_of_expand {definitions : Definitions} {tokens : List Token}
    {problem : ParseProblem} (refused : Token.expand definitions tokens = .error problem) :
    problem.isOfSections = false := by
  induction tokens with
  | nil => cases refused
  | cons token rest ih =>
    rw [Token.expand] at refused
    split at refused
    · next first =>
      cases refused
      exact isOfSections_of_meaning first
    · split at refused
      · next others =>
        cases refused
        exact ih others
      · cases refused

namespace Outline

variable {outline between : Outline} {number : Nat} {problem : ParseProblem} {error : ParseError}
  {raws : List (List Char)}

theorem isUnclosed_of_addSibling {block : Section} {siblings : List Section}
    (refused : addSibling block siblings = .error problem) : problem.isUnclosed = false := by
  unfold addSibling at refused
  split at refused
  · cases refused
  · split at refused
    · cases refused
      rfl
    · cases refused

theorem isUnclosed_of_attach {block : Section} (refused : outline.attach block = .error problem) :
    problem.isUnclosed = false := by
  unfold attach at refused
  split at refused
  · rcases bind_eq_error.mp refused with taken | ⟨_, _, refused⟩
    · exact isUnclosed_of_addSibling taken
    · cases refused
  · rcases bind_eq_error.mp refused with taken | ⟨_, _, refused⟩
    · exact isUnclosed_of_addSibling taken
    · cases refused

/-- A line that does not fit is refused for itself. -/
theorem isUnclosed_of_add {line : Line} (refused : outline.add number line = .error problem) :
    problem.isUnclosed = false := by
  cases line with
  | blank => cases refused
  | openTag typeName name => cases refused
  | emptyTag typeName name => exact isUnclosed_of_attach refused
  | definition name value =>
    rcases bind_eq_error.mp refused with references | ⟨_, _, refused⟩
    · exact ParseProblem.isUnclosed_of_isOfSections (isOfSections_of_expand references)
    · split at refused
      · cases refused
        rfl
      · cases refused
  | option key value =>
    rcases bind_eq_error.mp refused with references | ⟨_, _, refused⟩
    · exact ParseProblem.isUnclosed_of_isOfSections (isOfSections_of_expand references)
    · split at refused
      · cases refused
        rfl
      · cases refused
  | closeTag typeName =>
    have refused : outline.closeInnermost typeName number = .error problem := refused
    unfold closeInnermost at refused
    split at refused
    · cases refused
      rfl
    · split at refused
      · exact isUnclosed_of_attach refused
      · cases refused
        rfl

/-- A line that is refused is reported by its number, and not because a section is left open. -/
theorem line_of_readLine {raw : List Char} (refused : outline.readLine number raw = .error error) :
    error.line = number ∧ error.problem.isUnclosed = false := by
  unfold readLine at refused
  split at refused
  · next malformed =>
    cases refused
    exact ⟨rfl, ParseProblem.isUnclosed_of_isOfSections (isOfSections_of_classify malformed)⟩
  · split at refused
    · next misfit =>
      cases refused
      exact ⟨rfl, isUnclosed_of_add misfit⟩
    · cases refused

/-! ### Lines in turn -/

theorem readLines_cons_of_ok {raw : List Char} (reads : outline.readLine number raw = .ok between)
    (rest : List (List Char)) :
    outline.readLines number (raw :: rest) = between.readLines (number + 1) rest := by
  rw [readLines, reads]

theorem readLines_cons_of_error {raw : List Char}
    (refused : outline.readLine number raw = .error error) (rest : List (List Char)) :
    outline.readLines number (raw :: rest) = .error error := by
  rw [readLines, refused]

/-- Lines are read after those before them. -/
theorem readLines_append (more : List (List Char)) :
    outline.readLines number (raws ++ more) =
      outline.readLines number raws >>= fun between =>
        between.readLines (number + raws.length) more := by
  induction raws generalizing outline number with
  | nil => rfl
  | cons raw rest ih =>
    rw [List.cons_append]
    cases first : outline.readLine number raw with
    | error problem =>
      rw [readLines_cons_of_error first, readLines_cons_of_error first]
      rfl
    | ok next =>
      rw [readLines_cons_of_ok first, readLines_cons_of_ok first, ih, add_length_cons]

/-- Lines are refused for the first that is wrong, those before it being read. -/
theorem exists_split_of_readLines (refused : outline.readLines number raws = .error error) :
    ∃ before raw after, raws = before ++ raw :: after ∧ error.line = number + before.length ∧
      error.problem.isUnclosed = false ∧
      outline.readLines number (before ++ [raw]) = .error error ∧
      ∃ between, outline.readLines number before = .ok between := by
  induction raws generalizing outline number with
  | nil => cases refused
  | cons raw rest ih =>
    cases first : outline.readLine number raw with
    | error problem =>
      rw [readLines_cons_of_error first] at refused
      cases refused
      obtain ⟨isLine, isOther⟩ := line_of_readLine first
      exact ⟨[], raw, rest, rfl, isLine, isOther, readLines_cons_of_error first [], outline, rfl⟩
    | ok next =>
      rw [readLines_cons_of_ok first] at refused
      obtain ⟨before, wrong, after, rfl, isLine, isOther, refusedThere, between, reads⟩ :=
        ih refused
      refine ⟨raw :: before, wrong, after, rfl, ?_, isOther, ?_, between, ?_⟩
      · rw [isLine, add_length_cons]
      · rw [List.cons_append, readLines_cons_of_ok first]
        exact refusedThere
      · rw [readLines_cons_of_ok first]
        exact reads

end Outline

/-! ### Texts -/

variable {text : String} {error : ParseError}

/-- A text has sections, unless one of them is left open. -/
def AtMostUnclosed (text : String) : Prop :=
  ∀ error, parse text = .error error → error.problem.isUnclosed = true

theorem parse_of_readLines {last : Outline}
    (reads : Outline.readLines {} 1 (lines text.toList) = .ok last) : parse text = last.finish := by
  unfold parse parseLines
  rw [reads]

theorem parse_of_refused (refused : Outline.readLines {} 1 (lines text.toList) = .error error) :
    parse text = .error error := by
  unfold parse parseLines
  rw [refused]

/-- A text all of whose lines are read is refused only if a section is left open, and then for the
innermost one. -/
theorem innermost_of_parse {last : Outline}
    (reads : Outline.readLines {} 1 (lines text.toList) = .ok last)
    (failed : parse text = .error error) :
    ∃ typeName outer, error.problem = .unclosedSection typeName ∧
      last.openings = (typeName, error.line) :: outer := by
  rw [parse_of_readLines reads, Outline.finish] at failed
  split at failed
  · cases failed
  · next opened outer innermost =>
    cases failed
    refine ⟨opened.typeName, outer.map fun opened => (opened.typeName, opened.line), rfl, ?_⟩
    rw [Outline.openings, innermost]
    rfl

theorem atMostUnclosed_of_readLines {last : Outline}
    (reads : Outline.readLines {} 1 (lines text.toList) = .ok last) : AtMostUnclosed text := by
  intro error failed
  obtain ⟨_, _, isProblem, _⟩ := innermost_of_parse reads failed
  rw [isProblem]
  rfl

theorem atMostUnclosed_firstLines {count : Nat} {last : Outline}
    (reads : Outline.readLines {} 1 ((lines text.toList).take count) = .ok last) :
    AtMostUnclosed (.ofList (firstLines count text.toList)) := by
  apply atMostUnclosed_of_readLines
  rw [String.toList_ofList, lines_firstLines]
  exact reads

/-- What is known of a text that is refused for one of its lines. -/
structure FirstProblem (text : String) (error : ParseError) : Prop where
  inText : 1 ≤ error.line ∧ error.line ≤ (lines text.toList).length
  /-- All texts with the same lines up to there are refused in the same way. -/
  decides : ∀ other : String,
    (lines other.toList).take error.line = (lines text.toList).take error.line →
      parse other = .error error
  /-- The lines before are not refused. -/
  isFirst : AtMostUnclosed (.ofList (firstLines (error.line - 1) text.toList))

/-- What is known of a text that is refused because a section is left open. -/
structure LastUnclosed (text : String) (error : ParseError) : Prop where
  /-- No line is refused. -/
  before : ∀ count, AtMostUnclosed (.ofList (firstLines count text.toList))
  /-- The line is that of the last opening tag without a match. -/
  isLast : ∃ said typeName, (lines text.toList).map Line.classify = said.map .ok ∧
    error.problem = .unclosedSection typeName ∧ Unclosed said typeName error.line ∧
    ∀ otherType number, Unclosed said otherType number → number ≤ error.line

theorem firstProblem_of_refused
    (refused : Outline.readLines {} 1 (lines text.toList) = .error error) :
    FirstProblem text error := by
  obtain ⟨before, raw, after, split, isLine, _, refusedThere, between, reads⟩ :=
    Outline.exists_split_of_readLines refused
  have upTo : (lines text.toList).take error.line = before ++ [raw] := by
    have whole : before ++ raw :: after = (before ++ [raw]) ++ after := by
      rw [List.append_assoc, List.singleton_append]
    have count : error.line = (before ++ [raw]).length := by
      rw [isLine, List.length_append, List.length_singleton, Nat.add_comm]
    rw [split, whole, count, List.take_left]
  have cut : (lines text.toList).take (error.line - 1) = before := by
    rw [split, isLine, Nat.add_sub_cancel_left, List.take_left]
  refine ⟨⟨?_, ?_⟩, fun other same => ?_, ?_⟩
  · rw [isLine]
    exact Nat.le_add_right 1 _
  · rw [isLine, split, List.length_append, List.length_cons]
    omega
  · apply parse_of_refused
    rw [← List.take_append_drop error.line (lines other.toList), same, upTo,
      Outline.readLines_append, refusedThere]
    rfl
  · rw [← cut] at reads
    exact atMostUnclosed_firstLines reads

theorem lastUnclosed_of_readLines {last : Outline}
    (reads : Outline.readLines {} 1 (lines text.toList) = .ok last)
    (failed : parse text = .error error) : LastUnclosed text error := by
  refine ⟨fun count => ?_, ?_⟩
  · rw [← List.take_append_drop count (lines text.toList), Outline.readLines_append] at reads
    obtain ⟨between, readsFirst, _⟩ := bind_eq_ok.mp reads
    exact atMostUnclosed_firstLines readsFirst
  · obtain ⟨typeName, outer, isProblem, innermost⟩ := innermost_of_parse reads failed
    have nothing : Leaves [] (Outline.openings {}) := .none .nil
    obtain ⟨said, classified, leaves⟩ := Outline.leaves_of_readLines nothing reads
    rw [innermost] at leaves
    obtain ⟨unclosed, isLast⟩ := leaves.last
    exact ⟨said, typeName, classified, isProblem, unclosed, isLast⟩

/-- **The first line that is wrong decides.** A text is refused for it whatever follows, and if there
is none, for the last opening tag without a match. -/
theorem parse_firstProblem (failed : parse text = .error error) :
    (error.problem.isUnclosed = false → FirstProblem text error) ∧
      (error.problem.isUnclosed = true → LastUnclosed text error) := by
  cases reads : Outline.readLines {} 1 (lines text.toList) with
  | error first =>
    obtain rfl := Except.error.inj ((parse_of_refused reads).symm.trans failed)
    obtain ⟨_, _, _, _, _, isOther, _⟩ := Outline.exists_split_of_readLines reads
    refine ⟨fun _ => firstProblem_of_refused reads, fun isUnclosed => ?_⟩
    rw [isOther] at isUnclosed
    cases isUnclosed
  | ok last =>
    have isUnclosed := atMostUnclosed_of_readLines reads error failed
    refine ⟨fun isOther => ?_, fun _ => lastUnclosed_of_readLines reads failed⟩
    rw [isUnclosed] at isOther
    cases isOther

/-- The closing tag of the third line has the wrong type, and the last line is wrong as well. -/
def mismatchedText : String := "<zodb>\n<demostorage>\n</zodb>\n%other"

/-- The sections of the first two lines are left open, and that of the third is not. -/
def unclosedText : String := "<zodb>\n<demostorage>\n<mappingstorage>\n</mappingstorage>\n"

/-- One is refused for its third line, and the other for the tag on its second. -/
theorem parse_firstProblem_texts :
    (∃ error, parse mismatchedText = .error error ∧ error.line = 3 ∧
      FirstProblem mismatchedText error) ∧
    ∃ error, parse unclosedText = .error error ∧ error.line = 2 ∧
      LastUnclosed unclosedText error := by
  have mismatched : parse mismatchedText = .error ⟨.mismatchedEnd "zodb" "demostorage" 2, 3⟩ :=
    error?_eq_some_iff.mp (by decide +kernel)
  have unclosed : parse unclosedText = .error ⟨.unclosedSection "demostorage", 2⟩ :=
    error?_eq_some_iff.mp (by decide +kernel)
  exact ⟨⟨_, mismatched, rfl, (parse_firstProblem mismatched).1 rfl⟩,
    ⟨_, unclosed, rfl, (parse_firstProblem unclosed).2 rfl⟩⟩

end StoreTopology

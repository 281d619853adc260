/-
**Lines are settled, then placed.**

What a line says is settled first: its references are replaced by what was defined before it, and a
definition is noted. The settled line is then put in its place among the sections, which has nothing
to do with definitions any more.

* `Line.settle`, `settleAll`: settling one line, or all lines in turn;
* `Outline.place`, `placeAll`: placing one settled line, or all of them in turn;
* `parseLines_eq_ok_iff`: reading lines is to say what they are, to settle and to place them.
-/

import StoreTopology.Proofs.Action
import StoreTopology.Section.Forest

namespace StoreTopology

open Text

/-! ### Settling -/

/-- The line with its references replaced, and the definitions after it. Nothing is left of a
definition. -/
def Line.settle (definitions : Definitions) : Line → Except ParseProblem (Line × Definitions)
  | .definition name value => do
    let value ← substitute definitions value
    if definitions.contains name then .error (.redefinition name)
    else return (.blank, definitions.insert name (.ofList value))
  | .option key value => do
    let value ← substitute definitions value
    return (.option key value, definitions)
  | line => .ok (line, definitions)

theorem settle_definition_iff {definitions next : Definitions} {name : String}
    {value : List Char} {settled : Line} :
    (Line.definition name value).settle definitions = .ok (settled, next) ↔
      ∃ text, substitute definitions value = .ok text ∧ definitions.contains name = false ∧
        settled = .blank ∧ next = definitions.insert name (.ofList text) := by
  unfold Line.settle
  rw [bind_eq_ok]
  constructor
  · rintro ⟨text, replaced, went⟩
    split at went
    · cases went
    · next free =>
      cases went
      exact ⟨text, replaced, Bool.not_eq_true _ ▸ free, rfl, rfl⟩
  · rintro ⟨text, replaced, free, rfl, rfl⟩
    refine ⟨text, replaced, ?_⟩
    rw [free]
    rfl

theorem settle_option_iff {definitions next : Definitions} {key : String} {value : List Char}
    {settled : Line} :
    (Line.option key value).settle definitions = .ok (settled, next) ↔
      ∃ text, substitute definitions value = .ok text ∧ settled = .option key text ∧
        next = definitions := by
  unfold Line.settle
  rw [bind_eq_ok]
  constructor
  · rintro ⟨text, replaced, went⟩
    cases went
    exact ⟨text, replaced, rfl, rfl⟩
  · rintro ⟨text, replaced, rfl, rfl⟩
    exact ⟨text, replaced, rfl⟩

/-- The lines with their references replaced, and the definitions after them. -/
def settleAll (definitions : Definitions) :
    List Line → Except ParseProblem (List Line × Definitions)
  | [] => .ok ([], definitions)
  | line :: rest => do
    let (settled, next) ← line.settle definitions
    let (later, last) ← settleAll next rest
    return (settled :: later, last)

theorem settleAll_cons_iff {definitions last : Definitions} {line : Line}
    {rest settled : List Line} :
    settleAll definitions (line :: rest) = .ok (settled, last) ↔
      ∃ first next later, line.settle definitions = .ok (first, next) ∧
        settleAll next rest = .ok (later, last) ∧ settled = first :: later := by
  rw [settleAll, bind_eq_ok]
  constructor
  · rintro ⟨⟨first, next⟩, settles, went⟩
    obtain ⟨⟨later, end_⟩, others, same⟩ := bind_eq_ok.mp went
    cases same
    exact ⟨first, next, later, settles, others, rfl⟩
  · rintro ⟨first, next, later, settles, others, rfl⟩
    exact ⟨(first, next), settles, bind_eq_ok.mpr ⟨(later, last), others, rfl⟩⟩

theorem length_of_settleAll {definitions last : Definitions} {lines settled : List Line}
    (settles : settleAll definitions lines = .ok (settled, last)) :
    settled.length = lines.length := by
  induction lines generalizing definitions settled with
  | nil =>
    cases settles
    rfl
  | cons line rest ih =>
    obtain ⟨first, next, later, _, settlesRest, rfl⟩ := settleAll_cons_iff.mp settles
    rw [List.length_cons, List.length_cons, ih settlesRest]

theorem settleAll_append_iff {definitions last : Definitions} {lines more settled : List Line} :
    settleAll definitions (lines ++ more) = .ok (settled, last) ↔
      ∃ first next later, settleAll definitions lines = .ok (first, next) ∧
        settleAll next more = .ok (later, last) ∧ settled = first ++ later := by
  induction lines generalizing definitions settled with
  | nil =>
    constructor
    · intro settles
      exact ⟨[], definitions, settled, rfl, settles, rfl⟩
    · rintro ⟨first, next, later, none, settles, rfl⟩
      cases none
      exact settles
  | cons line rest ih =>
    rw [List.cons_append, settleAll_cons_iff]
    constructor
    · rintro ⟨first, next, _, settlesFirst, others, rfl⟩
      obtain ⟨middle, between, later, settlesRest, settlesMore, rfl⟩ := ih.mp others
      exact ⟨_, between, later,
        settleAll_cons_iff.mpr ⟨first, next, middle, settlesFirst, settlesRest, rfl⟩,
        settlesMore, rfl⟩
    · rintro ⟨_, between, later, settlesAll, settlesMore, rfl⟩
      obtain ⟨first, next, middle, settlesFirst, settlesRest, rfl⟩ :=
        settleAll_cons_iff.mp settlesAll
      exact ⟨first, next, _, settlesFirst,
        ih.mpr ⟨middle, between, later, settlesRest, settlesMore, rfl⟩, rfl⟩

/-! ### Placing -/

namespace Outline

variable {outline next final : Outline} {number : Nat}

/-- Put a settled line in its place. -/
def place (outline : Outline) (number : Nat) : Line → Except ParseProblem Outline
  | .blank | .definition _ _ => .ok outline
  | .openTag typeName name =>
    .ok { outline with enclosing := { typeName, name, line := number } :: outline.enclosing }
  | .emptyTag typeName name =>
    outline.attach (OpenSection.close { typeName, name, line := number } number)
  | .closeTag typeName => outline.closeInnermost typeName number
  | .option key value =>
    match outline.enclosing with
    | [] => .error (.strayOption key)
    | opened :: outer =>
      let line : OptionLine := ⟨lowercased key, .ofList value, number⟩
      .ok { outline with enclosing := { opened with options := line :: opened.options } :: outer }

/-- Put settled lines in their places, the first of them having the given number. -/
def placeAll (outline : Outline) (number : Nat) : List Line → Except ParseProblem Outline
  | [] => .ok outline
  | line :: rest => do
    let next ← outline.place number line
    next.placeAll (number + 1) rest

/-- The outline with other definitions. -/
def withDefinitions (outline : Outline) (definitions : Definitions) : Outline :=
  { outline with definitions }

theorem attach_withDefinitions (outline : Outline) (definitions : Definitions) (block : Section) :
    (outline.withDefinitions definitions).attach block =
      (outline.attach block).map (·.withDefinitions definitions) := by
  unfold attach withDefinitions
  cases outline.enclosing with
  | nil =>
    cases addSibling block outline.roots with
    | error problem => rfl
    | ok roots => rfl
  | cons parent outer =>
    dsimp only
    cases addSibling block parent.children with
    | error problem => rfl
    | ok children => rfl

/-- Placing a line has nothing to do with definitions. -/
theorem place_withDefinitions (outline : Outline) (definitions : Definitions) (number : Nat)
    (line : Line) :
    (outline.withDefinitions definitions).place number line =
      (outline.place number line).map (·.withDefinitions definitions) := by
  cases line with
  | blank => rfl
  | definition name value => rfl
  | openTag typeName name => rfl
  | emptyTag typeName name => exact attach_withDefinitions outline definitions _
  | closeTag typeName =>
    unfold place closeInnermost withDefinitions
    cases outline.enclosing with
    | nil => rfl
    | cons opened outer =>
      dsimp only
      split
      · exact attach_withDefinitions { outline with enclosing := outer } definitions _
      · rfl
  | option key value =>
    unfold place withDefinitions
    cases outline.enclosing with
    | nil => rfl
    | cons opened outer => rfl

theorem placeAll_cons_iff {line : Line} {rest : List Line} :
    outline.placeAll number (line :: rest) = .ok final ↔
      ∃ next, outline.place number line = .ok next ∧
        next.placeAll (number + 1) rest = .ok final := by
  rw [placeAll, bind_eq_ok]

/-! ### Reading -/

/-- A line is settled by the definitions before it, and then placed. -/
theorem add_withDefinitions (outline : Outline) (definitions : Definitions) (number : Nat)
    (line : Line) :
    (outline.withDefinitions definitions).add number line =
      line.settle definitions >>= fun result =>
        (outline.withDefinitions result.2).place number result.1 := by
  cases line with
  | blank => rfl
  | openTag typeName name => rfl
  | emptyTag typeName name => rfl
  | closeTag typeName => rfl
  | definition name value =>
    show (outline.withDefinitions definitions).define name value = _
    unfold define Line.settle withDefinitions
    dsimp only
    cases substitute definitions value with
    | error problem => rfl
    | ok text =>
      by_cases taken : definitions.contains name = true
      · show (if _ then _ else _) = (if _ then _ else _) >>= _
        rw [if_pos taken, if_pos taken]
        rfl
      · show (if _ then _ else _) = (if _ then _ else _) >>= _
        rw [if_neg taken, if_neg taken]
        rfl
  | option key value =>
    show (outline.withDefinitions definitions).addOption key value number = _
    unfold addOption Line.settle withDefinitions
    dsimp only
    cases substitute definitions value with
    | error problem => rfl
    | ok text => rfl

theorem readLine_eq_ok_iff {definitions : Definitions} {raw : List Char} :
    (outline.withDefinitions definitions).readLine number raw = .ok next ↔
      ∃ line settled after placed, Line.classify raw = .ok line ∧
        line.settle definitions = .ok (settled, after) ∧
        outline.place number settled = .ok placed ∧ next = placed.withDefinitions after := by
  unfold readLine
  constructor
  · intro read
    split at read
    · cases read
    · next line classified =>
      split at read
      · cases read
      · next added =>
        cases read
        rw [add_withDefinitions] at added
        obtain ⟨⟨settled, after⟩, settles, places⟩ := bind_eq_ok.mp added
        rw [place_withDefinitions] at places
        obtain ⟨placed, placesFirst, same⟩ := map_eq_ok.mp places
        exact ⟨line, settled, after, placed, classified, settles, placesFirst, same.symm⟩
  · rintro ⟨line, settled, after, placed, classified, settles, places, rfl⟩
    have added : (outline.withDefinitions definitions).add number line =
        .ok (placed.withDefinitions after) := by
      rw [add_withDefinitions]
      refine bind_eq_ok.mpr ⟨_, settles, ?_⟩
      rw [place_withDefinitions, places]
      rfl
    rw [classified]
    dsimp only
    rw [added]

/-- Reading lines is to say what they are, to settle and to place them. -/
theorem readLines_eq_ok_iff {definitions : Definitions} {raws : List (List Char)} :
    (outline.withDefinitions definitions).readLines number raws = .ok final ↔
      ∃ said settled last placed, raws.map Line.classify = said.map .ok ∧
        settleAll definitions said = .ok (settled, last) ∧
        outline.placeAll number settled = .ok placed ∧ final = placed.withDefinitions last := by
  induction raws generalizing outline number definitions with
  | nil =>
    constructor
    · intro read
      cases read
      exact ⟨[], [], definitions, outline, rfl, rfl, rfl, rfl⟩
    · rintro ⟨said, settled, last, placed, classified, settles, places, rfl⟩
      cases said with
      | cons line rest => cases classified
      | nil =>
        cases settles
        cases places
        rfl
  | cons raw rest ih =>
    rw [readLines]
    constructor
    · intro read
      split at read
      · cases read
      · next next first =>
        obtain ⟨line, settled, after, placed, classified, settles, places, rfl⟩ :=
          readLine_eq_ok_iff.mp first
        obtain ⟨said, others, last, end_, classifies, settleRest, placeRest, rfl⟩ := ih.mp read
        refine ⟨line :: said, settled :: others, last, end_, ?_, ?_, ?_, rfl⟩
        · rw [List.map_cons, List.map_cons, classified, classifies]
        · exact settleAll_cons_iff.mpr ⟨settled, after, others, settles, settleRest, rfl⟩
        · exact placeAll_cons_iff.mpr ⟨placed, places, placeRest⟩
    · rintro ⟨said, settled, last, placed, classified, settles, places, rfl⟩
      cases said with
      | nil => cases classified
      | cons line others =>
        rw [List.map_cons, List.map_cons, List.cons.injEq] at classified
        obtain ⟨first, after, later, settleFirst, settleRest, rfl⟩ := settleAll_cons_iff.mp settles
        obtain ⟨next, placeFirst, placeRest⟩ := placeAll_cons_iff.mp places
        rw [readLine_eq_ok_iff.mpr ⟨line, first, after, next, classified.1, settleFirst,
          placeFirst, rfl⟩]
        exact ih.mpr ⟨others, later, last, placed, classified.2, settleRest, placeRest, rfl⟩

end Outline

/-- A list of lines has sections if its settled lines can be placed, and no section is left open. -/
theorem parseLines_eq_ok_iff {raws : List (List Char)} {forest : List Section} :
    parseLines raws = .ok forest ↔
      ∃ said settled last placed, raws.map Line.classify = said.map .ok ∧
        settleAll .empty said = .ok (settled, last) ∧
        Outline.placeAll {} 1 settled = .ok placed ∧ placed.enclosing = [] ∧
        placed.roots.reverse = forest := by
  unfold parseLines
  constructor
  · intro parsed
    split at parsed
    · cases parsed
    · next final read =>
      have reads : (Outline.withDefinitions {} .empty).readLines 1 raws = .ok final := read
      obtain ⟨said, settled, last, placed, classified, settles, places, rfl⟩ :=
        Outline.readLines_eq_ok_iff.mp reads
      unfold Outline.finish Outline.withDefinitions at parsed
      dsimp only at parsed
      split at parsed
      · next closed =>
        cases parsed
        exact ⟨said, settled, last, placed, classified, settles, places, closed, rfl⟩
      · cases parsed
  · rintro ⟨said, settled, last, placed, classified, settles, places, closed, rfl⟩
    have read : Outline.readLines {} 1 raws = .ok (placed.withDefinitions last) :=
      Outline.readLines_eq_ok_iff.mpr
        ⟨said, settled, last, placed, classified, settles, places, rfl⟩
    rw [read]
    unfold Outline.finish Outline.withDefinitions
    dsimp only
    rw [closed]

end StoreTopology

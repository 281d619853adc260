/-
**The texts that are configurations.**

* `IsConfiguration`: what the lines of a configuration have to satisfy, each condition by itself;
* `exists_settleAll_iff`: lines can be settled exactly if their definitions differ and their
  references are to definitions before them;
* `exists_parse_iff`: the texts that have sections are the configurations.
-/

import StoreTopology.Proofs.Section.Nesting
import StoreTopology.Proofs.Section.References
import StoreTopology.Topology

namespace StoreTopology

open Text

/-! ### Parts of lines -/

namespace Line

/-- The name that a line defines, in lowercase. -/
def defined? : Line → Option String
  | definition name _ => some name
  | _ => none

/-- The text in which a line may have references. -/
def value? : Line → Option (List Char)
  | definition _ value | option _ value => some value
  | _ => none

end Line

/-! ### Conditions -/

/-- Every dollar sign is doubled or begins a reference, and every reference is to a name that is
known or defined on an earlier line. -/
def ReferencesDefined (known : String → Prop) (said : List Line) : Prop :=
  ∀ before line after, said = before ++ line :: after → ∀ value ∈ line.value?,
    ∃ tokens, Token.Splits value tokens ∧ ∀ token ∈ tokens, ∀ name ∈ token.reference?,
      known (lowercased (.ofList name)) ∨
        lowercased (.ofList name) ∈ before.filterMap Line.defined?

/-- What the lines of a configuration say. -/
structure IsConfiguration (said : List Line) : Prop where
  /-- The tags are balanced, and siblings have different names. -/
  nesting : ∃ headings, Nests (said.filterMap Line.tag?) headings ∧ NamesDiffer headings
  optionsInside : OptionsInside 0 0 said
  /-- No name is defined twice. -/
  definitionsDiffer : (said.filterMap Line.defined?).Nodup
  referencesDefined : ReferencesDefined (fun _ => False) said

/-- The lines of a text are well-formed and make a configuration. -/
def InLanguage (text : String) : Prop :=
  ∃ said, (lines text.toList).map Line.classify = said.map .ok ∧ IsConfiguration said

/-! ### Settling -/

variable {definitions next last : Definitions} {line other : Line} {said settled : List Line}

theorem contains_insert (definitions : Definitions) (name other value : String) :
    (definitions.insert name value).contains other = true ↔
      name = other ∨ definitions.contains other = true := by
  unfold SortedMap.contains
  rw [SortedMap.get?_insert]
  by_cases same : name = other
  · simp [same]
  · simp [same]

/-- The references of one line are to known names. -/
def Line.ReferencesKnown (known : String → Prop) (line : Line) : Prop :=
  ∀ value ∈ line.value?, ∃ tokens, Token.Splits value tokens ∧
    ∀ token ∈ tokens, ∀ name ∈ token.reference?, known (lowercased (.ofList name))

/-- A line can be settled if its references are defined and what it defines is not. -/
theorem exists_settle_iff :
    (∃ result, line.settle definitions = .ok result) ↔
      line.ReferencesKnown (fun name => definitions.contains name = true) ∧
        ∀ name ∈ line.defined?, definitions.contains name = false := by
  cases line with
  | blank => simp [Line.settle, Line.ReferencesKnown, Line.value?, Line.defined?]
  | openTag typeName name => simp [Line.settle, Line.ReferencesKnown, Line.value?, Line.defined?]
  | emptyTag typeName name => simp [Line.settle, Line.ReferencesKnown, Line.value?, Line.defined?]
  | closeTag typeName => simp [Line.settle, Line.ReferencesKnown, Line.value?, Line.defined?]
  | option key value =>
    constructor
    · rintro ⟨⟨other, next⟩, settles⟩
      obtain ⟨text, replaced, _, _⟩ := settle_option_iff.mp settles
      refine ⟨fun _ isValue => ?_, fun _ none => nomatch none⟩
      cases isValue
      exact exists_substitute_iff.mp ⟨text, replaced⟩
    · rintro ⟨known, _⟩
      obtain ⟨text, replaced⟩ := exists_substitute_iff.mpr (known value rfl)
      exact ⟨_, settle_option_iff.mpr ⟨text, replaced, rfl, rfl⟩⟩
  | definition name value =>
    constructor
    · rintro ⟨⟨other, next⟩, settles⟩
      obtain ⟨text, replaced, free, _, _⟩ := settle_definition_iff.mp settles
      refine ⟨fun _ isValue => ?_, fun _ isName => ?_⟩
      · cases isValue
        exact exists_substitute_iff.mp ⟨text, replaced⟩
      · cases isName
        exact free
    · rintro ⟨known, free⟩
      obtain ⟨text, replaced⟩ := exists_substitute_iff.mpr (known value rfl)
      exact ⟨_, settle_definition_iff.mpr ⟨text, replaced, free name rfl, rfl, rfl⟩⟩

/-- What is defined after a line. -/
theorem contains_of_settle (settles : line.settle definitions = .ok (other, next)) (name : String) :
    next.contains name = true ↔ definitions.contains name = true ∨ name ∈ line.defined? := by
  cases line with
  | definition defined value =>
    obtain ⟨text, _, _, _, rfl⟩ := settle_definition_iff.mp settles
    rw [contains_insert, or_comm]
    simp [Line.defined?]
  | option key value =>
    obtain ⟨text, _, _, rfl⟩ := settle_option_iff.mp settles
    simp [Line.defined?]
  | blank => cases settles; simp [Line.defined?]
  | openTag typeName name => cases settles; simp [Line.defined?]
  | emptyTag typeName name => cases settles; simp [Line.defined?]
  | closeTag typeName => cases settles; simp [Line.defined?]

/-- A settled line is a tag or an option as it was before. -/
theorem shape_of_settle (settles : line.settle definitions = .ok (other, next)) :
    other.tag? = line.tag? ∧ other.isOption = line.isOption ∧
      other.isOpenTag = line.isOpenTag ∧ other.isCloseTag = line.isCloseTag := by
  cases line with
  | definition defined value =>
    obtain ⟨_, _, _, rfl, _⟩ := settle_definition_iff.mp settles
    exact ⟨rfl, rfl, rfl, rfl⟩
  | option key value =>
    obtain ⟨_, _, rfl, _⟩ := settle_option_iff.mp settles
    exact ⟨rfl, rfl, rfl, rfl⟩
  | blank => cases settles; exact ⟨rfl, rfl, rfl, rfl⟩
  | openTag typeName name => cases settles; exact ⟨rfl, rfl, rfl, rfl⟩
  | emptyTag typeName name => cases settles; exact ⟨rfl, rfl, rfl, rfl⟩
  | closeTag typeName => cases settles; exact ⟨rfl, rfl, rfl, rfl⟩

theorem mem_filterMap_cons {α β : Type} {f : α → Option β} {first : α} {rest : List α}
    {value : β} :
    value ∈ (first :: rest).filterMap f ↔ value ∈ f first ∨ value ∈ rest.filterMap f := by
  simp [List.mem_filterMap]

theorem referencesDefined_cons {known : String → Prop} {rest : List Line} :
    ReferencesDefined known (line :: rest) ↔
      line.ReferencesKnown known ∧
        ReferencesDefined (fun name => known name ∨ name ∈ line.defined?) rest := by
  unfold ReferencesDefined Line.ReferencesKnown
  rw [forall_split_cons]
  simp only [List.filterMap_nil, List.not_mem_nil, or_false, mem_filterMap_cons, or_assoc]

theorem ReferencesDefined.congr {known others : String → Prop}
    (same : ∀ name, known name ↔ others name) :
    ReferencesDefined known said ↔ ReferencesDefined others said := by
  rw [funext fun name => propext (same name)]

/-- Lines can be settled if their definitions differ and their references are to definitions before
them. -/
theorem exists_settleAll_iff :
    (∃ result, settleAll definitions said = .ok result) ↔
      (said.filterMap Line.defined?).Nodup ∧
        (∀ name ∈ said.filterMap Line.defined?, definitions.contains name = false) ∧
        ReferencesDefined (fun name => definitions.contains name = true) said := by
  induction said generalizing definitions with
  | nil => simp [settleAll, ReferencesDefined]
  | cons line rest ih =>
    rw [nodup_filterMap_cons, referencesDefined_cons]
    simp only [mem_filterMap_cons, or_imp, forall_and]
    constructor
    · rintro ⟨⟨settled, last⟩, settles⟩
      obtain ⟨first, next, later, settlesFirst, settlesRest, rfl⟩ := settleAll_cons_iff.mp settles
      obtain ⟨referencesKnown, free⟩ := exists_settle_iff.mp ⟨_, settlesFirst⟩
      have known := contains_of_settle settlesFirst
      obtain ⟨distinct, apart, defined⟩ := ih.mp ⟨_, settlesRest⟩
      have notKnown : ∀ name ∈ rest.filterMap Line.defined?,
          definitions.contains name = false ∧ name ∉ line.defined? := by
        intro name present
        have missing := apart name present
        rw [← Bool.not_eq_true, known name, not_or, Bool.not_eq_true] at missing
        exact missing
      refine ⟨⟨fun name isName present => (notKnown name present).2 isName, distinct⟩,
        ⟨free, fun name present => (notKnown name present).1⟩, referencesKnown, ?_⟩
      exact (ReferencesDefined.congr known).mp defined
    · rintro ⟨⟨differs, distinct⟩, ⟨free, apart⟩, referencesKnown, defined⟩
      obtain ⟨⟨first, next⟩, settlesFirst⟩ := exists_settle_iff.mpr ⟨referencesKnown, free⟩
      have known := contains_of_settle settlesFirst
      have missing : ∀ name ∈ rest.filterMap Line.defined?, next.contains name = false := by
        intro name present
        rw [← Bool.not_eq_true, known name, not_or, Bool.not_eq_true]
        exact ⟨apart name present, fun isName => differs name isName present⟩
      obtain ⟨⟨later, last⟩, settlesRest⟩ :=
        ih.mpr ⟨distinct, missing, (ReferencesDefined.congr known).mpr defined⟩
      exact ⟨_, settleAll_cons_iff.mpr ⟨first, next, later, settlesFirst, settlesRest, rfl⟩⟩

/-- Settled lines have the tags of the lines. -/
theorem filterMap_tag?_of_settleAll (settles : settleAll definitions said = .ok (settled, last)) :
    settled.filterMap Line.tag? = said.filterMap Line.tag? := by
  induction said generalizing definitions settled with
  | nil =>
    cases settles
    rfl
  | cons line rest ih =>
    obtain ⟨first, next, later, settlesFirst, settlesRest, rfl⟩ := settleAll_cons_iff.mp settles
    rw [List.filterMap_cons, List.filterMap_cons, (shape_of_settle settlesFirst).1,
      ih settlesRest]

/-- Settled lines have options where the lines have them. -/
theorem optionsInside_of_settleAll {opened closed : Nat}
    (settles : settleAll definitions said = .ok (settled, last)) :
    OptionsInside opened closed settled ↔ OptionsInside opened closed said := by
  induction said generalizing definitions settled opened closed with
  | nil =>
    cases settles
    rfl
  | cons line rest ih =>
    obtain ⟨first, next, later, settlesFirst, settlesRest, rfl⟩ := settleAll_cons_iff.mp settles
    obtain ⟨_, isOption, isOpenTag, isCloseTag⟩ := shape_of_settle settlesFirst
    rw [optionsInside_cons, optionsInside_cons, List.countP_singleton, List.countP_singleton,
      List.countP_singleton, List.countP_singleton, isOption, isOpenTag, isCloseTag,
      ih settlesRest]

/-! ### Texts -/

/-- **The texts that have sections are the configurations.** -/
theorem exists_parse_iff {text : String} :
    (∃ forest, parse text = .ok forest) ↔ InLanguage text := by
  have known : ∀ name, (SortedMap.empty : Definitions).contains name = true ↔ False := by
    intro name
    simp [SortedMap.contains]
  constructor
  · rintro ⟨forest, parsed⟩
    obtain ⟨said, settled, last, classified, settles, contents, distinct⟩ :=
      parseLines_eq_ok_iff_contents.mp parsed
    obtain ⟨nesting, optionsInside⟩ := exists_contents_iff.mp ⟨forest, contents, distinct⟩
    obtain ⟨definitionsDiffer, _, referencesDefined⟩ := exists_settleAll_iff.mp ⟨_, settles⟩
    rw [filterMap_tag?_of_settleAll settles] at nesting
    exact ⟨said, classified, nesting, (optionsInside_of_settleAll settles).mp optionsInside,
      definitionsDiffer, (ReferencesDefined.congr known).mp referencesDefined⟩
  · rintro ⟨said, classified, nesting, optionsInside, definitionsDiffer, referencesDefined⟩
    have unknown : ∀ name ∈ said.filterMap Line.defined?,
        (SortedMap.empty : Definitions).contains name = false := fun name _ => rfl
    obtain ⟨⟨settled, last⟩, settles⟩ := exists_settleAll_iff.mpr
      ⟨definitionsDiffer, unknown, (ReferencesDefined.congr known).mpr referencesDefined⟩
    rw [← filterMap_tag?_of_settleAll settles] at nesting
    rw [← optionsInside_of_settleAll settles] at optionsInside
    obtain ⟨forest, contents, distinct⟩ := exists_contents_iff.mpr ⟨nesting, optionsInside⟩
    exact ⟨forest, parseLines_eq_ok_iff_contents.mpr
      ⟨said, settled, last, classified, settles, contents, distinct⟩⟩

/-- A text that has no sections is refused for its syntax. -/
theorem exists_refused_iff {text : String} :
    (∃ error, Catalog.readSections text = .error error ∧ error.isSyntactic = true) ↔
      ¬ ∃ forest, parse text = .ok forest := by
  unfold Catalog.readSections
  cases parse text with
  | error error =>
    constructor
    · rintro _ ⟨_, parsed⟩
      cases parsed
    · exact fun _ => ⟨.malformed error, rfl, rfl⟩
  | ok forest =>
    constructor
    · rintro ⟨_, failed, _⟩
      cases failed
    · exact fun notParsed => absurd ⟨forest, rfl⟩ notParsed

/-- A text has sections exactly if it is a configuration, and else is refused for its syntax. -/
theorem parse_accepts_iff_inLanguage (text : String) :
    ((∃ forest, parse text = .ok forest) ↔ InLanguage text) ∧
      ((∃ error, Catalog.readSections text = .error error ∧ error.isSyntactic = true) ↔
        ¬ InLanguage text) := by
  refine ⟨exists_parse_iff, ?_⟩
  rw [← exists_parse_iff]
  exact exists_refused_iff

end StoreTopology

/-
**Tags, names and options that make sections.**

* `Nests`: tags are balanced and make sections with certain headings;
* `NamesDiffer`: siblings have different names, at every level;
* `OptionsInside`: every option stands inside of a section;
* `exists_contents_iff`: settled lines describe top-level sections exactly if they satisfy all
  three.
-/

import StoreTopology.Proofs.Section.Contents

namespace StoreTopology

open Text

/-- A tag of a section. -/
inductive Tag where
  | opening (typeName : String) (name : Option String)
  | empty (typeName : String) (name : Option String)
  | closing (typeName : String)
deriving DecidableEq

/-- The line that is a tag. -/
def Tag.line : Tag → Line
  | opening typeName name => .openTag typeName name
  | empty typeName name => .emptyTag typeName name
  | closing typeName => .closeTag typeName

namespace Line

/-- The tag that a line is. -/
def tag? : Line → Option Tag
  | openTag typeName name => some (.opening typeName name)
  | emptyTag typeName name => some (.empty typeName name)
  | closeTag typeName => some (.closing typeName)
  | blank | definition _ _ | option _ _ => none

def isOption : Line → Bool
  | option _ _ => true
  | _ => false

def isOpenTag : Line → Bool
  | openTag _ _ => true
  | _ => false

def isCloseTag : Line → Bool
  | closeTag _ => true
  | _ => false

end Line

/-- The name of a section, and the headings of the sections nested in it. -/
inductive Heading where
  | mk (name : Option String) (nested : List Heading)

namespace Heading

def name : Heading → Option String
  | mk name _ => name

def nested : Heading → List Heading
  | mk _ nested => nested

end Heading

/-! ### Conditions -/

/-- Tags are balanced, each closing tag having the type of the innermost open section, and make
sections with these headings. -/
inductive Nests : List Tag → List Heading → Prop
  | nil : Nests [] []
  | empty {typeName : String} {name : Option String} {rest : List Tag} {headings : List Heading}
      (later : Nests rest headings) :
      Nests (.empty typeName name :: rest) (.mk name [] :: headings)
  | block {typeName : String} {name : Option String} {inside rest : List Tag}
      {nested headings : List Heading} (own : Nests inside nested) (later : Nests rest headings) :
      Nests (.opening typeName name :: (inside ++ .closing typeName :: rest))
        (.mk name nested :: headings)

/-- The names of siblings differ, and so they do at every level below. -/
inductive NamesDiffer : List Heading → Prop
  | intro {headings : List Heading} (here : (headings.filterMap Heading.name).Nodup)
      (below : ∀ heading ∈ headings, NamesDiffer heading.nested) : NamesDiffer headings

/-- Every option stands inside of a section: more tags open a section before it than close one, so
many of either coming before the lines. -/
def OptionsInside (opened closed : Nat) (said : List Line) : Prop :=
  ∀ before line after, said = before ++ line :: after → line.isOption = true →
    closed + before.countP Line.isCloseTag < opened + before.countP Line.isOpenTag

/-! ### Positions in lists -/

theorem forall_split_cons {α : Type} {P : List α → α → Prop} {first : α} {rest : List α} :
    (∀ before item after, first :: rest = before ++ item :: after → P before item) ↔
      P [] first ∧
        ∀ before item after, rest = before ++ item :: after → P (first :: before) item := by
  constructor
  · intro all
    refine ⟨all [] first rest rfl, fun before item after split => ?_⟩
    exact all (first :: before) item after (by rw [split]; rfl)
  · rintro ⟨here, later⟩ before item after split
    cases before with
    | nil =>
      cases split
      exact here
    | cons head before =>
      cases split
      exact later before item after rfl

/-! ### Tags -/

variable {number : Nat} {lines rest : List Line} {options : List OptionLine}
  {children : List Section}

/-- The sections that headings belong to have different names if the headings do. -/
theorem distinctNames_iff_of_names {headings : List Heading}
    (names : children.map Section.name = headings.map Heading.name) :
    DistinctNames children ↔ (headings.filterMap Heading.name).Nodup := by
  have ofSections : children.filterMap Section.name = (children.map Section.name).filterMap id := by
    rw [List.filterMap_map]
    rfl
  have ofHeadings : headings.filterMap Heading.name = (headings.map Heading.name).filterMap id := by
    rw [List.filterMap_map]
    rfl
  unfold DistinctNames
  rw [ofSections, names, ofHeadings]

/-- Lines that describe children have balanced tags, with the names of the children. -/
theorem exists_nests_of_contents (contents : Contents number lines options children) :
    ∃ headings, Nests (lines.filterMap Line.tag?) headings ∧
      children.map Section.name = headings.map Heading.name ∧
      ∀ heading ∈ headings, NamesDiffer heading.nested := by
  induction contents with
  | nil number => exact ⟨[], .nil, rfl, fun _ none => nomatch none⟩
  | blank _ ih => exact ih
  | definition _ ih => exact ih
  | option _ ih => exact ih
  | @emptyTag number typeName name rest options children _ ih =>
    obtain ⟨headings, nests, names, below⟩ := ih
    refine ⟨.mk name [] :: headings, .empty nests, ?_, List.forall_mem_cons.mpr ⟨?_, below⟩⟩
    · show name :: children.map Section.name = name :: headings.map Heading.name
      rw [names]
    · exact .intro List.nodup_nil fun _ none => nomatch none
  | @block number typeName name inside rest ownOptions options ownChildren children _ distinct _
      ihOwn ih =>
    obtain ⟨nested, ownNests, ownNames, ownBelow⟩ := ihOwn
    obtain ⟨headings, nests, names, below⟩ := ih
    refine ⟨.mk name nested :: headings, ?_, ?_, List.forall_mem_cons.mpr ⟨?_, below⟩⟩
    · have tags : (.openTag typeName name :: (inside ++ .closeTag typeName :: rest)).filterMap
          Line.tag? = .opening typeName name :: (inside.filterMap Line.tag? ++
            .closing typeName :: rest.filterMap Line.tag?) := by
        simp [Line.tag?]
      rw [tags]
      exact .block ownNests nests
    · show name :: children.map Section.name = name :: headings.map Heading.name
      rw [names]
    · exact .intro ((distinctNames_iff_of_names ownNames).mp distinct) ownBelow

/-- Lines that are no tags describe nothing but options. -/
theorem contents_of_noTags {before : List Line} (noTags : ∀ line ∈ before, line.tag? = none)
    (later : Contents (number + before.length) rest options children) :
    ∃ options, Contents number (before ++ rest) options children := by
  induction before generalizing number with
  | nil => exact ⟨options, later⟩
  | cons line before ih =>
    obtain ⟨first, others⟩ := List.forall_mem_cons.mp noTags
    rw [add_length_cons] at later
    obtain ⟨own, contents⟩ := ih others later
    cases line with
    | blank => exact ⟨own, .blank contents⟩
    | definition name value => exact ⟨own, .definition contents⟩
    | option key value => exact ⟨_, .option contents⟩
    | openTag typeName name => cases first
    | emptyTag typeName name => cases first
    | closeTag typeName => cases first

theorem tag?_eq_some_iff {line : Line} {tag : Tag} :
    line.tag? = some tag ↔ line = tag.line := by
  cases line with
  | blank => cases tag <;> simp [Line.tag?, Tag.line]
  | definition name value => cases tag <;> simp [Line.tag?, Tag.line]
  | option key value => cases tag <;> simp [Line.tag?, Tag.line]
  | openTag typeName name => cases tag <;> simp [Line.tag?, Tag.line]
  | emptyTag typeName name => cases tag <;> simp [Line.tag?, Tag.line]
  | closeTag typeName => cases tag <;> simp [Line.tag?, Tag.line]

/-- Lines with balanced tags describe children that have the names of the sections. -/
theorem exists_contents_of_nests {tags : List Tag} {headings : List Heading}
    (nests : Nests tags headings) (below : ∀ heading ∈ headings, NamesDiffer heading.nested)
    (number : Nat) (lines : List Line) (areTags : lines.filterMap Line.tag? = tags) :
    ∃ options children, Contents number lines options children ∧
      children.map Section.name = headings.map Heading.name := by
  induction nests generalizing number lines with
  | nil =>
    have noTags := List.filterMap_eq_nil_iff.mp areTags
    obtain ⟨options, contents⟩ := contents_of_noTags noTags (.nil (number + lines.length))
    rw [List.append_nil] at contents
    exact ⟨options, [], contents, rfl⟩
  | empty _ ih =>
    obtain ⟨_, below⟩ := List.forall_mem_cons.mp below
    obtain ⟨before, line, rest, rfl, noTags, isTag, restTags⟩ :=
      List.filterMap_eq_cons_iff.mp areTags
    obtain rfl := tag?_eq_some_iff.mp isTag
    obtain ⟨options, children, contents, names⟩ :=
      ih below (number + before.length + 1) rest restTags
    obtain ⟨all, whole⟩ := contents_of_noTags noTags (.emptyTag contents)
    refine ⟨all, _, whole, ?_⟩
    rw [List.map_cons, List.map_cons, names]
    rfl
  | @block typeName name ownTags restTags nested headings _ _ ihOwn ih =>
    obtain ⟨⟨ownDistinct, ownBelow⟩, below⟩ := List.forall_mem_cons.mp below
    obtain ⟨before, line, others, rfl, noTags, isTag, otherTags⟩ :=
      List.filterMap_eq_cons_iff.mp areTags
    obtain rfl := tag?_eq_some_iff.mp isTag
    obtain ⟨inside, tail, rfl, insideTags, tailTags⟩ := List.filterMap_eq_append_iff.mp otherTags
    obtain ⟨last, line, rest, rfl, noMore, isClosing, areRest⟩ :=
      List.filterMap_eq_cons_iff.mp tailTags
    obtain rfl := tag?_eq_some_iff.mp isClosing
    have areOwn : (inside ++ last).filterMap Line.tag? = ownTags := by
      rw [List.filterMap_append, insideTags, List.filterMap_eq_nil_iff.mpr noMore,
        List.append_nil]
    obtain ⟨ownOptions, ownChildren, own, ownNames⟩ :=
      ihOwn ownBelow (number + before.length + 1) (inside ++ last) areOwn
    obtain ⟨options, children, later, names⟩ :=
      ih below (number + before.length + (inside ++ last).length + 2) rest areRest
    have block : Contents (number + before.length)
        (.openTag typeName name :: (inside ++ last ++ .closeTag typeName :: rest)) options _ :=
      .block own ((distinctNames_iff_of_names ownNames).mpr ownDistinct) later
    rw [List.append_assoc] at block
    obtain ⟨all, whole⟩ := contents_of_noTags noTags block
    refine ⟨all, _, whole, ?_⟩
    rw [List.map_cons, List.map_cons, names]
    rfl

/-! ### Options -/

variable {opened closed : Nat}

theorem optionsInside_cons {line : Line} :
    OptionsInside opened closed (line :: rest) ↔
      (line.isOption = true → closed < opened) ∧
        OptionsInside (opened + [line].countP Line.isOpenTag)
          (closed + [line].countP Line.isCloseTag) rest := by
  have shift : ∀ (p : Line → Bool) (start : Nat) (before : List Line),
      start + (line :: before).countP p = start + [line].countP p + before.countP p := by
    intro p start before
    rw [Nat.add_assoc, ← List.countP_append]
    rfl
  unfold OptionsInside
  rw [forall_split_cons]
  refine and_congr Iff.rfl ?_
  refine forall_congr' fun before => forall_congr' fun item => forall_congr' fun after => ?_
  rw [shift Line.isCloseTag, shift Line.isOpenTag]

/-- One more section that was opened and closed again makes no difference. -/
theorem optionsInside_succ :
    OptionsInside (opened + 1) (closed + 1) rest ↔ OptionsInside opened closed rest := by
  constructor
  · intro inside before line after split isOption
    have less := inside before line after split isOption
    omega
  · intro inside before line after split isOption
    have less := inside before line after split isOption
    omega

/-- Lines that describe options have them inside of a section, unless all sections that were opened
before are closed. -/
theorem optionsInside_append_iff (contents : Contents number lines options children)
    (more : closed ≤ opened) :
    OptionsInside opened closed (lines ++ rest) ↔
      (opened = closed → options = []) ∧ OptionsInside opened closed rest := by
  induction contents generalizing opened closed rest with
  | nil number => simp
  | blank _ ih => 
    rw [List.cons_append, optionsInside_cons]
    simpa [Line.isOption, Line.isOpenTag, Line.isCloseTag] using ih more
  | definition _ ih =>
    rw [List.cons_append, optionsInside_cons]
    simpa [Line.isOption, Line.isOpenTag, Line.isCloseTag] using ih more
  | option _ ih =>
    rw [List.cons_append, optionsInside_cons]
    simp only [Line.isOption, Line.isOpenTag, Line.isCloseTag, List.countP_singleton,
      Bool.false_eq_true, if_false, Nat.add_zero, true_imp_iff, reduceCtorEq, imp_false]
    rw [ih more]
    constructor
    · rintro ⟨inside, _, later⟩
      exact ⟨Nat.ne_of_gt inside, later⟩
    · rintro ⟨differ, later⟩
      exact ⟨Nat.lt_of_le_of_ne more (Ne.symm differ), fun same => absurd same differ, later⟩
  | emptyTag _ ih =>
    rw [List.cons_append, optionsInside_cons]
    simpa [Line.isOption, Line.isOpenTag, Line.isCloseTag] using ih more
  | block _ _ _ ihOwn ih =>
    rw [List.cons_append, List.append_assoc, optionsInside_cons]
    simp only [Line.isOption, Line.isOpenTag, Line.isCloseTag, List.countP_singleton,
      Bool.false_eq_true, if_false, if_true, Nat.add_zero, false_imp_iff, true_and]
    rw [ihOwn (Nat.le_succ_of_le more), List.cons_append, optionsInside_cons]
    simp only [Line.isOption, Line.isOpenTag, Line.isCloseTag, List.countP_singleton,
      Bool.false_eq_true, if_false, if_true, Nat.add_zero, false_imp_iff, true_and]
    rw [optionsInside_succ, ih more]
    constructor
    · rintro ⟨_, both⟩
      exact both
    · intro both
      exact ⟨fun same => absurd same (by omega), both⟩

/-- Settled lines describe top-level sections exactly if their tags are balanced, siblings have
different names, and every option stands inside of a section. -/
theorem exists_contents_iff :
    (∃ forest, Contents number lines [] forest ∧ DistinctNames forest) ↔
      (∃ headings, Nests (lines.filterMap Line.tag?) headings ∧ NamesDiffer headings) ∧
        OptionsInside 0 0 lines := by
  have inside : ∀ {options : List OptionLine} {children : List Section},
      Contents number lines options children → (OptionsInside 0 0 lines ↔ options = []) := by
    intro options children contents
    have whole : OptionsInside 0 0 (lines ++ []) ↔ _ :=
      optionsInside_append_iff contents (Nat.le_refl 0)
    rw [List.append_nil] at whole
    rw [whole]
    simp [OptionsInside]
  constructor
  · rintro ⟨forest, contents, distinct⟩
    obtain ⟨headings, nests, names, below⟩ := exists_nests_of_contents contents
    have differ := (distinctNames_iff_of_names names).mp distinct
    exact ⟨⟨headings, nests, .intro differ below⟩, (inside contents).mpr rfl⟩
  · rintro ⟨⟨headings, nests, differ, below⟩, optionsInside⟩
    obtain ⟨options, forest, contents, names⟩ :=
      exists_contents_of_nests nests below number lines rfl
    obtain rfl := (inside contents).mp optionsInside
    exact ⟨forest, contents, (distinctNames_iff_of_names names).mpr differ⟩

end StoreTopology

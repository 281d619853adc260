/-
**Where the sections of a text stand.**

A section extends from the line of its opening tag to that of its closing tag.

* `Section.Occurs`: a section occurs in a forest, at whatever depth;
* `Extends`: options and children stand on given lines, one after another;
* `extends_of_contents`: so do those that lines describe, on these lines;
* `parse_laidOut`: every section of a text holds all that is in it between its two tags, and
  siblings follow one another under different names.
-/

import StoreTopology.Proofs.Section.Contents

namespace StoreTopology

open Text

/-- A section is one of a forest, or nested in one that occurs there. -/
inductive Section.Occurs (forest : List Section) : Section → Prop
  | top {block : Section} (present : block ∈ forest) : Occurs forest block
  | nested {around child : Section} (occurs : Occurs forest around)
      (isChild : child ∈ around.children) : Occurs forest child

theorem Section.not_occurs_nil {block : Section} : ¬ Section.Occurs [] block := by
  intro occurs
  induction occurs with
  | top none => cases none
  | nested _ _ ih => exact ih

theorem Section.occurs_cons {first block : Section} {rest : List Section}
    (occurs : Section.Occurs (first :: rest) block) :
    block = first ∨ Section.Occurs first.children block ∨ Section.Occurs rest block := by
  induction occurs with
  | top present =>
    rcases List.mem_cons.mp present with same | inRest
    · exact .inl same
    · exact .inr (.inr (.top inRest))
  | nested _ isChild ih =>
    rcases ih with rfl | inFirst | inRest
    · exact .inr (.inl (.top isChild))
    · exact .inr (.inl (.nested inFirst isChild))
    · exact .inr (.inr (.nested inRest isChild))

/-! ### Lines that options and children stand on -/

/-- Options and children stand on lines from a first one on, and before another one. They follow one
another, no option standing inside of a child. -/
structure Extends (first next : Nat) (options : List OptionLine) (children : List Section) :
    Prop where
  optionsInside : ∀ option ∈ options, first ≤ option.line ∧ option.line < next
  optionsInOrder : options.Pairwise fun earlier later => earlier.line < later.line
  childrenInside : ∀ child ∈ children, first ≤ child.line ∧ child.endLine < next
  apart : children.Pairwise fun earlier later => earlier.endLine < later.line
  outside : ∀ option ∈ options, ∀ child ∈ children,
    option.line < child.line ∨ child.endLine < option.line

namespace Extends

variable {first second next : Nat} {options : List OptionLine} {children : List Section}

theorem nil (first next : Nat) : Extends first next [] [] where
  optionsInside := fun _ none => nomatch none
  optionsInOrder := .nil
  childrenInside := fun _ none => nomatch none
  apart := .nil
  outside := fun _ none => nomatch none

theorem widen (placed : Extends second next options children) (before : first ≤ second) :
    Extends first next options children where
  optionsInside := fun option present =>
    (placed.optionsInside option present).imp_left (Nat.le_trans before)
  optionsInOrder := placed.optionsInOrder
  childrenInside := fun child present =>
    (placed.childrenInside child present).imp_left (Nat.le_trans before)
  apart := placed.apart
  outside := placed.outside

/-- An option comes before all else. -/
theorem consOption {option : OptionLine} (placed : Extends (first + 1) next options children)
    (here : option.line = first) (inside : first < next) :
    Extends first next (option :: options) children := by
  subst here
  have wide := placed.widen (Nat.le_succ option.line)
  refine ⟨?_, ?_, wide.childrenInside, placed.apart, ?_⟩
  · exact List.forall_mem_cons.mpr ⟨⟨Nat.le_refl _, inside⟩, wide.optionsInside⟩
  · exact List.pairwise_cons.mpr
      ⟨fun later present => (placed.optionsInside later present).1, placed.optionsInOrder⟩
  · exact List.forall_mem_cons.mpr
      ⟨fun child present => .inl (placed.childrenInside child present).1, placed.outside⟩

/-- A section comes before all else. -/
theorem consChild {block : Section} {last : Nat} (placed : Extends (last + 1) next options children)
    (begins : block.line = first) (ends : block.endLine = last) (ordered : first ≤ last)
    (inside : last < next) : Extends first next options (block :: children) := by
  subst begins ends
  have wide := placed.widen (Nat.le_succ_of_le ordered)
  refine ⟨wide.optionsInside, placed.optionsInOrder, ?_, ?_, fun option isOption => ?_⟩
  · exact List.forall_mem_cons.mpr ⟨⟨Nat.le_refl _, inside⟩, wide.childrenInside⟩
  · exact List.pairwise_cons.mpr
      ⟨fun later present => (placed.childrenInside later present).1, placed.apart⟩
  · exact List.forall_mem_cons.mpr
      ⟨.inr (placed.optionsInside option isOption).1, placed.outside option isOption⟩

end Extends

variable {number count : Nat} {lines : List Line} {options : List OptionLine}
  {children : List Section}

/-- Options and children that lines describe stand on these lines. -/
theorem extends_of_contents (contents : Contents number lines options children) :
    Extends number (number + lines.length) options children := by
  induction contents with
  | nil number => exact .nil _ _
  | @blank number _ _ _ _ ih =>
    rw [add_length_cons]
    exact ih.widen (Nat.le_succ number)
  | @definition number _ _ _ _ _ _ ih =>
    rw [add_length_cons]
    exact ih.widen (Nat.le_succ number)
  | option _ ih =>
    rw [add_length_cons]
    exact ih.consOption rfl (Nat.lt_add_right _ (Nat.lt_succ_self _))
  | emptyTag _ ih =>
    rw [add_length_cons]
    exact ih.consChild rfl rfl (Nat.le_refl _) (Nat.lt_add_right _ (Nat.lt_succ_self _))
  | block _ _ _ _ ih =>
    rw [add_length_block]
    exact ih.consChild rfl rfl (Nat.le_succ_of_le (Nat.le_add_right _ _))
      (Nat.lt_add_right _ (Nat.lt_succ_self _))

/-! ### Sections -/

/-- Siblings have different names, and each of them ends before the next one begins. -/
structure SiblingsInOrder (siblings : List Section) : Prop where
  names : DistinctNames siblings
  apart : siblings.Pairwise fun earlier later => earlier.endLine < later.line

/-- A section is one of so many lines, and all that it holds stands between its two tags, in order
and apart from one another. -/
structure Section.IsLaidOut (count : Nat) (block : Section) : Prop where
  first : 1 ≤ block.line
  ordered : block.line ≤ block.endLine
  last : block.endLine ≤ count
  childrenInside : ∀ child ∈ block.children, block.line < child.line ∧ child.endLine < block.endLine
  siblings : SiblingsInOrder block.children
  optionsInside : ∀ option ∈ block.options, block.line < option.line ∧ option.line < block.endLine
  optionsInOrder : block.options.Pairwise fun earlier later => earlier.line < later.line
  /-- No option of the section stands inside of a nested one. -/
  outside : ∀ option ∈ block.options, ∀ child ∈ block.children,
    option.line < child.line ∨ child.endLine < option.line
  /-- A section on one line is empty. -/
  empty : block.line = block.endLine → block.options = [] ∧ block.children = []

namespace Section.IsLaidOut

/-- A section whose tags are one is laid out. -/
theorem emptyTag (typeName : String) (name : Option String) (first : 1 ≤ number)
    (last : number ≤ count) : IsLaidOut count ⟨typeName, name, [], [], number, number⟩ where
  first := first
  ordered := Nat.le_refl _
  last := last
  childrenInside := fun _ none => nomatch none
  siblings := ⟨.nil, .nil⟩
  optionsInside := fun _ none => nomatch none
  optionsInOrder := .nil
  outside := fun _ none => nomatch none
  empty := fun _ => ⟨rfl, rfl⟩

/-- A section between two tags is laid out if all that it holds stands on the lines between them. -/
theorem between {block : Section} (placed : Extends (block.line + 1) block.endLine block.options
      block.children) (distinct : DistinctNames block.children) (first : 1 ≤ block.line)
    (apart : block.line < block.endLine) (last : block.endLine ≤ count) : IsLaidOut count block where
  first := first
  ordered := Nat.le_of_lt apart
  last := last
  childrenInside := placed.childrenInside
  siblings := ⟨distinct, placed.apart⟩
  optionsInside := placed.optionsInside
  optionsInOrder := placed.optionsInOrder
  outside := placed.outside
  empty := fun same => absurd same (Nat.ne_of_lt apart)

end Section.IsLaidOut

/-- All sections that lines describe, at whatever depth, are laid out. -/
theorem isLaidOut_of_contents (contents : Contents number lines options children)
    (first : 1 ≤ number) (last : number + lines.length ≤ count + 1) {block : Section}
    (occurs : Section.Occurs children block) : block.IsLaidOut count := by
  induction contents generalizing block with
  | nil number => exact absurd occurs Section.not_occurs_nil
  | blank _ ih =>
    rw [add_length_cons] at last
    exact ih (Nat.le_succ_of_le first) last occurs
  | definition _ ih =>
    rw [add_length_cons] at last
    exact ih (Nat.le_succ_of_le first) last occurs
  | option _ ih =>
    rw [add_length_cons] at last
    exact ih (Nat.le_succ_of_le first) last occurs
  | emptyTag _ ih =>
    rw [add_length_cons] at last
    rcases Section.occurs_cons occurs with rfl | inside | later
    · exact .emptyTag _ _ first (by omega)
    · exact absurd inside Section.not_occurs_nil
    · exact ih (Nat.le_succ_of_le first) last later
  | @block number typeName name inside rest _ _ _ _ own distinct _ ihOwn ih =>
    rw [add_length_block] at last
    rcases Section.occurs_cons occurs with rfl | nested | later
    · have placed := extends_of_contents own
      rw [Nat.add_right_comm] at placed
      exact .between placed distinct first (Nat.lt_succ_of_le (Nat.le_add_right _ _))
        (by dsimp only; omega)
    · exact ihOwn (Nat.le_succ_of_le first) (by omega) nested
    · exact ih (by omega) (by omega) later

/-- **Every section of a text holds all that is in it between its two tags**, and siblings follow
one another under different names. -/
theorem parse_laidOut {text : String} {forest : List Section} (parsed : parse text = .ok forest) :
    SiblingsInOrder forest ∧ ∀ block, Section.Occurs forest block →
      block.IsLaidOut (Text.lines text.toList).length := by
  obtain ⟨said, settled, last, classified, settles, contents, distinct⟩ :=
    parseLines_eq_ok_iff_contents.mp parsed
  have lengths := congrArg List.length classified
  rw [List.length_map, List.length_map, ← length_of_settleAll settles] at lengths
  refine ⟨⟨distinct, (extends_of_contents contents).apart⟩, fun block occurs => ?_⟩
  exact isLaidOut_of_contents contents (Nat.le_refl 1) (Nat.le_of_eq (by rw [lengths, Nat.add_comm])) occurs

/-- A database with options before and after its storage, which is nested once more. -/
def surroundedStorage : String :=
  "<zodb Main>\ncache-size 1\n<demostorage>\n<mappingstorage/>\n</demostorage>\n# end\n" ++
    "pool-size 2\n</zodb>"

/-- Its sections hold all that is in them. -/
theorem parse_laidOut_surrounded :
    ∃ forest, parse surroundedStorage = .ok forest ∧
      forest.map (fun block => (block.line, block.endLine)) = [(1, 8)] ∧
      SiblingsInOrder forest ∧
      ∀ block, Section.Occurs forest block → block.IsLaidOut 8 := by
  have reads : ((parse surroundedStorage).toOption.map fun forest =>
      forest.map fun block => (block.line, block.endLine)) = some [(1, 8)] := by decide +kernel
  obtain ⟨forest, isOk, extents⟩ := Option.map_eq_some_iff.mp reads
  have parsed := toOption_eq_some_iff.mp isOk
  obtain ⟨siblings, laidOut⟩ := parse_laidOut parsed
  have count : (Text.lines surroundedStorage.toList).length = 8 := by decide +kernel
  rw [count] at laidOut
  exact ⟨forest, parsed, extents, siblings, laidOut⟩

end StoreTopology

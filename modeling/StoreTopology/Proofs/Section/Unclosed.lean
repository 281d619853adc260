/-
**The sections that lines leave open.**

* `Unclosed`: an opening tag has no closing tag that matches it;
* `Nests.countP_le`: no more sections are closed than opened, anywhere in balanced tags;
* `Leaves`: lines leave sections open, each but for balanced lines after its opening tag;
* `leaves_of_readLines`: the open sections of an outline are those that the lines read leave open;
* `Leaves.last`: the innermost of them has the last opening tag without a match.
-/

import StoreTopology.Proofs.Section.Nesting

namespace StoreTopology

open Text

/-- Tags close a section that was opened before them, after balanced ones. -/
def ClosedBy (typeName : String) (tags : List Tag) : Prop :=
  ∃ inside rest headings, tags = inside ++ .closing typeName :: rest ∧ Nests inside headings

/-- A line is an opening tag, and no later line is the closing tag that matches it. -/
def Unclosed (said : List Line) (typeName : String) (number : Nat) : Prop :=
  ∃ before name after, said = before ++ .openTag typeName name :: after ∧
    number = before.length + 1 ∧ ¬ ClosedBy typeName (after.filterMap Line.tag?)

/-! ### Balanced tags -/

namespace Tag

def isOpening : Tag → Bool
  | opening _ _ => true
  | _ => false

def isClosing : Tag → Bool
  | closing _ => true
  | _ => false

end Tag

namespace Nests

variable {tags more before after : List Tag} {headings others : List Heading} {typeName : String}
  {name : Option String}

theorem append (nests : Nests tags headings) (later : Nests more others) :
    Nests (tags ++ more) (headings ++ others) := by
  induction nests with
  | nil => exact later
  | empty _ ih => exact .empty ih
  | block own _ _ ih =>
    rw [List.cons_append, List.append_assoc]
    exact .block own ih

/-- As many tags close a section as open one. -/
theorem countP_eq (nests : Nests tags headings) :
    tags.countP Tag.isClosing = tags.countP Tag.isOpening := by
  induction nests with
  | nil => rfl
  | empty _ ih => simpa [Tag.isClosing, Tag.isOpening] using ih
  | block _ _ ihOwn ih =>
    simp only [List.countP_cons, List.countP_append, Tag.isClosing, Tag.isOpening,
      Bool.false_eq_true, if_false, if_true]
    omega

/-- No more tags close a section than open one, up to any place. -/
theorem countP_le (nests : Nests tags headings) (split : tags = before ++ after) :
    before.countP Tag.isClosing ≤ before.countP Tag.isOpening := by
  induction nests generalizing before after with
  | nil =>
    obtain ⟨rfl, _⟩ := List.append_eq_nil_iff.mp split.symm
    exact Nat.le_refl 0
  | empty _ ih =>
    cases before with
    | nil => exact Nat.le_refl 0
    | cons first before =>
      obtain ⟨rfl, later⟩ := List.cons.inj split
      simpa [Tag.isClosing, Tag.isOpening] using ih later
  | block own _ ihOwn ih =>
    cases before with
    | nil => exact Nat.le_refl 0
    | cons first before =>
      obtain ⟨rfl, later⟩ := List.cons.inj split
      rcases List.append_eq_append_iff.mp later with ⟨beyond, rfl, others⟩ | ⟨left, inOwn, _⟩
      · -- The place is behind the section, or just before its closing tag.
        have balanced := own.countP_eq
        cases beyond with
        | nil =>
          simp only [List.countP_cons, List.countP_append, List.countP_nil, Tag.isClosing,
            Tag.isOpening, Bool.false_eq_true, if_false, if_true]
          omega
        | cons closing beyond =>
          obtain ⟨rfl, inRest⟩ := List.cons.inj others
          have fewer := ih inRest
          simp only [List.countP_cons, List.countP_append, Tag.isClosing, Tag.isOpening,
            Bool.false_eq_true, if_false, if_true]
          omega
      · have fewer := ihOwn inOwn
        simp only [List.countP_cons, Tag.isClosing, Tag.isOpening, Bool.false_eq_true, if_false,
          if_true]
        omega

/-- Balanced tags close no section that was opened before them. -/
theorem not_closedBy (nests : Nests tags headings) : ¬ ClosedBy typeName tags := by
  rintro ⟨inside, rest, _, split, own⟩
  have whole : tags = (inside ++ [.closing typeName]) ++ rest := by
    rw [split, List.append_assoc, List.singleton_append]
  have fewer := nests.countP_le whole
  have balanced := own.countP_eq
  simp only [List.countP_append, List.countP_singleton, Tag.isClosing, Tag.isOpening,
    Bool.false_eq_true, if_false, if_true] at fewer
  omega

/-- In balanced tags, every section that is opened is closed. -/
theorem closedBy_of_opening (nests : Nests tags headings)
    (split : tags = before ++ .opening typeName name :: after) : ClosedBy typeName after := by
  induction nests generalizing before after with
  | nil => exact absurd split.symm (List.append_ne_nil_of_right_ne_nil _ (List.cons_ne_nil _ _))
  | empty _ ih =>
    cases before with
    | nil => cases split
    | cons first before => exact ih (List.cons.inj split).2
  | @block _ _ inside rest nested _ own _ ihOwn ih =>
    cases before with
    | nil =>
      cases split
      exact ⟨inside, rest, nested, rfl, own⟩
    | cons first before =>
      rcases List.append_eq_append_iff.mp (List.cons.inj split).2 with
        ⟨beyond, rfl, others⟩ | ⟨left, inOwn, others⟩
      · cases beyond with
        | nil => cases others
        | cons closing beyond => exact ih (List.cons.inj others).2
      · cases left with
        | nil => cases others
        | cons opening left =>
          obtain ⟨rfl, rfl⟩ := List.cons.inj others
          obtain ⟨within, beyond, heading, rfl, closed⟩ := ihOwn inOwn
          exact ⟨within, _, heading, List.append_assoc _ _ _, closed⟩

end Nests

/-! ### Sections that are left open -/

/-- Lines leave sections open, innermost first, each given by its type and line. What stands between
their opening tags, and behind the last of them, is balanced. -/
inductive Leaves : List Line → List (String × Nat) → Prop
  | none {said : List Line} {headings : List Heading}
      (nests : Nests (said.filterMap Line.tag?) headings) : Leaves said []
  | opened {before inside : List Line} {typeName : String} {name : Option String}
      {outer : List (String × Nat)} {headings : List Heading} (around : Leaves before outer)
      (own : Nests (inside.filterMap Line.tag?) headings) :
      Leaves (before ++ .openTag typeName name :: inside)
        ((typeName, before.length + 1) :: outer)

namespace Leaves

variable {said more : List Line} {stack outer : List (String × Nat)} {headings : List Heading}
  {typeName : String} {name : Option String} {number : Nat}

/-- Balanced lines leave no further section open, and close none. -/
theorem append (leaves : Leaves said stack) (balanced : Nests (more.filterMap Line.tag?) headings) :
    Leaves (said ++ more) stack := by
  cases leaves with
  | none nests =>
    have whole := nests.append balanced
    rw [← List.filterMap_append] at whole
    exact .none whole
  | opened around own =>
    have whole := own.append balanced
    rw [← List.filterMap_append] at whole
    rw [List.append_assoc, List.cons_append]
    exact .opened around whole

/-- A closing tag of the right type closes the innermost section. -/
theorem close (leaves : Leaves said ((typeName, number) :: outer)) :
    Leaves (said ++ [.closeTag typeName]) outer := by
  cases leaves with
  | @opened before inside _ name _ _ around own =>
    have tags : (.openTag typeName name :: (inside ++ [.closeTag typeName])).filterMap Line.tag? =
        .opening typeName name :: (inside.filterMap Line.tag? ++ .closing typeName :: []) := by
      simp [Line.tag?]
    have block : Nests (.opening typeName name :: (inside.filterMap Line.tag? ++
      .closing typeName :: [])) _ := .block own .nil
    rw [← tags] at block
    rw [List.append_assoc, List.cons_append]
    exact around.append block

/-- **The innermost section that is left open has the last opening tag without a match.** -/
theorem last (leaves : Leaves said ((typeName, number) :: outer)) :
    Unclosed said typeName number ∧
      ∀ otherType other, Unclosed said otherType other → other ≤ number := by
  cases leaves with
  | @opened before inside _ name _ _ _ own =>
    refine ⟨⟨before, name, inside, rfl, rfl, own.not_closedBy⟩, ?_⟩
    rintro otherType _ ⟨earlier, otherName, after, split, rfl, notClosed⟩
    rcases List.append_eq_append_iff.mp split with ⟨beyond, rfl, later⟩ | ⟨left, rfl, _⟩
    · cases beyond with
      | nil => simp
      | cons opening beyond =>
        -- Another opening tag behind it stands in balanced lines, and is closed there.
        obtain ⟨_, rfl⟩ := List.cons.inj later
        have tags : (beyond ++ .openTag otherType otherName :: after).filterMap Line.tag? =
            beyond.filterMap Line.tag? ++ .opening otherType otherName ::
              after.filterMap Line.tag? := List.filterMap_append
        exact absurd (own.closedBy_of_opening tags) notClosed
    · rw [List.length_append]
      omega

end Leaves

/-! ### Reading -/

namespace Outline

variable {outline next : Outline} {number : Nat} {said : List Line} {line : Line}

/-- The types and lines of the open sections, innermost first. -/
def openings (outline : Outline) : List (String × Nat) :=
  outline.enclosing.map fun opened => (opened.typeName, opened.line)

theorem openings_extend (options : List OptionLine) (children : List Section) :
    (outline.extend options children).openings = outline.openings := by
  obtain ⟨definitions, enclosing, roots⟩ := outline
  cases enclosing with
  | nil => rfl
  | cons opened outer => rfl

theorem openings_of_attach {block : Section} (attaches : outline.attach block = .ok next) :
    next.openings = outline.openings := by
  rw [(attach_eq_ok_iff.mp attaches).2, openings_extend]

theorem openings_of_define {name : String} {value : List Char}
    (defines : outline.define name value = .ok next) : next.openings = outline.openings := by
  obtain ⟨text, _, defines⟩ := bind_eq_ok.mp defines
  split at defines
  · cases defines
  · cases defines
    rfl

theorem openings_of_addOption {key : String} {value : List Char}
    (adds : outline.addOption key value number = .ok next) : next.openings = outline.openings := by
  obtain ⟨text, _, adds⟩ := bind_eq_ok.mp adds
  unfold openings
  split at adds
  · cases adds
  · next innermost =>
    cases adds
    rw [innermost]
    rfl

/-- A closing tag takes the innermost of the open sections away. -/
theorem openings_of_closeInnermost {typeName : String}
    (closes : outline.closeInnermost typeName number = .ok next) :
    ∃ line, outline.openings = (typeName, line) :: next.openings := by
  obtain ⟨opened, outer, innermost, rfl⟩ := innermost_of_closeInnermost closes
  unfold closeInnermost at closes
  rw [innermost] at closes
  dsimp only at closes
  rw [if_pos rfl] at closes
  refine ⟨opened.line, ?_⟩
  rw [openings_of_attach closes, openings, innermost]
  rfl

/-- What one more line leaves open, after lines before it. -/
theorem leaves_of_add (leaves : Leaves said outline.openings)
    (adds : outline.add (said.length + 1) line = .ok next) :
    Leaves (said ++ [line]) next.openings := by
  cases line with
  | blank =>
    cases adds
    exact leaves.append .nil
  | definition name value =>
    rw [openings_of_define adds]
    exact leaves.append .nil
  | option key value =>
    rw [openings_of_addOption adds]
    exact leaves.append .nil
  | openTag typeName name =>
    cases adds
    exact .opened leaves .nil
  | emptyTag typeName name =>
    rw [openings_of_attach adds]
    exact leaves.append (.empty .nil)
  | closeTag typeName =>
    obtain ⟨line, same⟩ := openings_of_closeInnermost adds
    rw [same] at leaves
    exact leaves.close

theorem readLine_eq_ok {raw : List Char} (reads : outline.readLine number raw = .ok next) :
    ∃ line, Line.classify raw = .ok line ∧ outline.add number line = .ok next := by
  unfold readLine at reads
  split at reads
  · cases reads
  · next line classified =>
    split at reads
    · cases reads
    · next adds =>
      cases reads
      exact ⟨line, classified, adds⟩

/-- What lines leave open, after lines before them. -/
theorem leaves_of_readLines {raws : List (List Char)} (leaves : Leaves said outline.openings)
    (reads : outline.readLines (said.length + 1) raws = .ok next) :
    ∃ more, raws.map Line.classify = more.map .ok ∧ Leaves (said ++ more) next.openings := by
  induction raws generalizing outline said with
  | nil =>
    cases reads
    exact ⟨[], rfl, leaves.append .nil⟩
  | cons raw rest ih =>
    rw [readLines] at reads
    split at reads
    · cases reads
    · next between first =>
      obtain ⟨line, classified, adds⟩ := readLine_eq_ok first
      have after := leaves_of_add leaves adds
      have count : said.length + 1 = (said ++ [line]).length := by
        rw [List.length_append, List.length_singleton]
      rw [count] at reads
      obtain ⟨more, areMore, left⟩ := ih after reads
      refine ⟨line :: more, ?_, ?_⟩
      · rw [List.map_cons, List.map_cons, classified, areMore]
      · rw [List.append_assoc, List.singleton_append] at left
        exact left

end Outline

end StoreTopology

/-
**Sections and the tags that open them.**

* `Section.outward`: a section and all that is nested in it, each before what is nested in it;
* `openings`: the lines that open sections, with the types of these;
* `openings_of_contents`: lines that describe sections open just these, one after another;
* `Line.IsTagOf`: a line is a tag that opens a section, its type being spelled in some way;
* `exists_section_of_tag`: such a line of a text opens exactly one of its sections, whose type is
  the one of the tag in lowercase.
-/

import StoreTopology.Proofs.Section.Definitions
import StoreTopology.Proofs.Section.Extent
import StoreTopology.Proofs.Section.LineCase
import StoreTopology.Proofs.Section.Traversal

namespace StoreTopology

open Text

variable {number index : Nat} {lines said settled : List Line} {options : List OptionLine}
  {forest children : List Section} {block : Section} {typeName : String} {line : Line}
  {last : Definitions}

/-! ### Sections from the outside in -/

namespace Section

mutual

/-- A section and all that is nested in it, each section before those nested in it. -/
def outward : Section → List Section
  | ⟨typeName, name, options, children, line, endLine⟩ =>
    ⟨typeName, name, options, children, line, endLine⟩ :: outwardAll children

/-- The sections of a forest and all that is nested in them. -/
def outwardAll : List Section → List Section
  | [] => []
  | block :: rest => outward block ++ outwardAll rest

end

theorem outwardAll_cons (block : Section) (rest : List Section) :
    outwardAll (block :: rest) = block :: (outwardAll block.children ++ outwardAll rest) := by
  cases block
  rw [outwardAll, outward, List.cons_append]

/-- What occurs among sections that occur in a forest occurs there. -/
theorem Occurs.within (occurs : Occurs children block)
    (all : ∀ child ∈ children, Occurs forest child) : Occurs forest block := by
  induction occurs with
  | top present => exact all _ present
  | nested _ isChild ih => exact .nested ih isChild

/-- The sections that occur in a forest are those met from the outside in. -/
theorem mem_outwardAll_of_occurs (occurs : Occurs forest block) : block ∈ outwardAll forest := by
  induction forest using forest_induction with
  | nil => exact absurd occurs not_occurs_nil
  | cons first rest ihNested ih =>
    rw [outwardAll_cons, List.mem_cons, List.mem_append]
    rcases occurs_cons occurs with same | nested | later
    · exact .inl same
    · exact .inr (.inl (ihNested nested))
    · exact .inr (.inr (ih later))

theorem occurs_of_mem_outwardAll (present : block ∈ outwardAll forest) : Occurs forest block := by
  induction forest using forest_induction with
  | nil => cases present
  | cons first rest ihNested ih =>
    rw [outwardAll_cons, List.mem_cons, List.mem_append] at present
    rcases present with rfl | nested | later
    · exact .top List.mem_cons_self
    · refine (ihNested nested).within fun child isChild => ?_
      exact .nested (.top List.mem_cons_self) isChild
    · exact (ih later).within fun other isOther => .top (List.mem_cons_of_mem _ isOther)

end Section

/-! ### Lines that open sections -/

/-- The type of the section that a line opens. -/
def Line.opened? : Line → Option String
  | openTag typeName _ => some typeName
  | emptyTag typeName _ => some typeName
  | blank | definition _ _ | closeTag _ | option _ _ => none

/-- The lines that open sections, with the types of these, the first of all lines having the given
number. -/
def openings (number : Nat) (lines : List Line) : List (Nat × String) :=
  (lines.zipIdx number).filterMap fun entry => entry.1.opened?.map fun typeName =>
    (entry.2, typeName)

theorem openings_append (number : Nat) (lines more : List Line) :
    openings number (lines ++ more) =
      openings number lines ++ openings (number + lines.length) more := by
  unfold openings
  rw [List.zipIdx_append, List.filterMap_append]

theorem openings_cons_of_none (none : line.opened? = none) :
    openings number (line :: lines) = openings (number + 1) lines := by
  unfold openings
  rw [List.zipIdx_cons, List.filterMap_cons, none]
  rfl

theorem openings_cons_of_some (opens : line.opened? = some typeName) :
    openings number (line :: lines) = (number, typeName) :: openings (number + 1) lines := by
  unfold openings
  rw [List.zipIdx_cons, List.filterMap_cons, opens]
  rfl

theorem mem_openings (found : lines[index]? = some line) (opens : line.opened? = some typeName) :
    (number + index, typeName) ∈ openings number lines := by
  have present : (line, number + index) ∈ lines.zipIdx number :=
    List.mem_zipIdx_iff_le_and_getElem?_sub.mpr
      ⟨Nat.le_add_right _ _, by rw [Nat.add_sub_cancel_left]; exact found⟩
  refine List.mem_filterMap.mpr ⟨_, present, ?_⟩
  rw [opens]
  rfl

/-- Lines open at most one section each, one after another. -/
theorem openings_pairwise (number : Nat) (lines : List Line) :
    (openings number lines).Pairwise fun earlier later => earlier.1 < later.1 := by
  have numbered : (lines.zipIdx number).Pairwise fun earlier later => earlier.2 < later.2 := by
    rw [← List.pairwise_map, List.zipIdx_map_snd]
    exact List.pairwise_lt_range'
  refine numbered.filterMap _ fun earlier later before first isFirst second isSecond => ?_
  obtain ⟨_, _, rfl⟩ := Option.map_eq_some_iff.mp isFirst
  obtain ⟨_, _, rfl⟩ := Option.map_eq_some_iff.mp isSecond
  exact before

/-- Lines that describe sections open just these, from the outside in. -/
theorem openings_of_contents (contents : Contents number lines options children) :
    (Section.outwardAll children).map (fun block => (block.line, block.typeName)) =
      openings number lines := by
  induction contents with
  | nil number => rfl
  | blank _ ih => rw [ih, openings_cons_of_none rfl]
  | definition _ ih => rw [ih, openings_cons_of_none rfl]
  | option _ ih => rw [ih, openings_cons_of_none rfl]
  | emptyTag _ ih =>
    rw [Section.outwardAll_cons, Section.outwardAll, List.nil_append, List.map_cons, ih,
      openings_cons_of_some rfl]
  | @block number typeName name inside rest _ _ _ _ _ _ _ ihOwn ih =>
    rw [Section.outwardAll_cons, List.map_cons, List.map_append, ihOwn, ih,
      openings_cons_of_some rfl, openings_append, openings_cons_of_none rfl,
      Nat.add_right_comm number 1]

/-- The line that opens a section opens no other one. -/
theorem eq_of_line_eq (contents : Contents number lines options children) {other : Section}
    (occurs : Section.Occurs children block) (occursOther : Section.Occurs children other)
    (same : other.line = block.line) : other = block := by
  have apart : ((Section.outwardAll children).map Section.line).Nodup := by
    have opened := openings_pairwise number lines
    rw [← openings_of_contents contents, List.pairwise_map] at opened
    exact List.pairwise_map.mpr (opened.imp Nat.ne_of_lt)
  exact List.inj_on_of_nodup_map apart (Section.mem_outwardAll_of_occurs occursOther)
    (Section.mem_outwardAll_of_occurs occurs) same

/-! ### Tags as they are written -/

/-- A line is a tag that opens a section, and its type has this spelling. -/
def Line.IsTagOf (typeName : String) (raw : List Char) : Prop :=
  ∃ text rest, trim raw = '<' :: text ∧ text.head? ≠ some '/' ∧
    splitName (trimStart text) = some (typeName.toList, rest)

/-- A tag opens a section of its type in lowercase. -/
theorem Line.opened?_of_isTagOf {raw : List Char} (isTag : IsTagOf typeName raw)
    (classified : classify raw = .ok line) : line.opened? = some (lowercased typeName) := by
  obtain ⟨text, rest, begins, noSlash, split⟩ := isTag
  have trimmed : Trimmed ('<' :: text) := begins ▸ trim_trimmed raw
  rw [← classify_trim, begins, classify_bracket_iff trimmed,
    readTag_of_ne fun c first same => noSlash (same ▸ first), readOpenTag, split] at classified
  rw [Option.bind_eq_bind, Option.bind_some] at classified
  have ends : ∀ name ending, tagEnding typeName.toList name ending = some line →
      line.opened? = some (lowercased typeName) := by
    intro name ending isLine
    rw [tagEnding_eq, String.ofList_toList] at isLine
    split at isLine
    · cases isLine
      rfl
    · split at isLine
      · cases isLine
        rfl
      · cases isLine
  dsimp only at classified
  split at classified
  · exact ends _ _ classified
  · exact ends _ _ classified

/-- A line opens the same section when it is settled. -/
theorem exists_settled_of_opened (settles : List.Forall₂ (SettlesTo last) said settled)
    (found : said[index]? = some line) (opens : line.opened? = some typeName) :
    ∃ other, settled[index]? = some other ∧ other.opened? = some typeName := by
  induction settles generalizing index with
  | nil => cases found
  | cons settlesTo _ ih =>
    cases index with
    | zero =>
      cases Option.some.inj found
      cases settlesTo with
      | definition _ _ => cases opens
      | option _ => cases opens
      | same _ => exact ⟨_, rfl, opens⟩
    | succ index => exact ih found

/-- A tag of a text opens exactly one of its sections, whose type is in lowercase. -/
theorem exists_section_of_tag {text : String} {raw : List Char} (parsed : parse text = .ok forest)
    (found : (Text.lines text.toList)[index]? = some raw) (isTag : Line.IsTagOf typeName raw) :
    ∃ block, Section.Occurs forest block ∧ block.line = index + 1 ∧
      block.typeName = lowercased typeName ∧
      ∀ other, Section.Occurs forest other → other.line = index + 1 → other = block := by
  obtain ⟨said, settled, last, classified, settles, contents, _⟩ :=
    parseLines_eq_ok_iff_contents.mp parsed
  obtain ⟨line, isSaid, isLine⟩ : ∃ line, said[index]? = some line ∧
      Line.classify raw = .ok line := by
    have here : ((Text.lines text.toList).map Line.classify)[index]? =
        some (Line.classify raw) := by rw [List.getElem?_map, found, Option.map_some]
    rw [classified, List.getElem?_map] at here
    obtain ⟨line, isSaid, same⟩ := Option.map_eq_some_iff.mp here
    exact ⟨line, isSaid, same.symm⟩
  obtain ⟨other, isSettled, opens⟩ := exists_settled_of_opened (settlesTo_of_settleAll settles).2
    isSaid (Line.opened?_of_isTagOf isTag isLine)
  have opening : (index + 1, lowercased typeName) ∈ openings 1 settled :=
    Nat.add_comm 1 index ▸ mem_openings isSettled opens
  rw [← openings_of_contents contents] at opening
  obtain ⟨block, present, isOpening⟩ := List.mem_map.mp opening
  obtain ⟨isLineOf, isTypeOf⟩ := Prod.mk.inj isOpening
  have occurs := Section.occurs_of_mem_outwardAll present
  exact ⟨block, occurs, isLineOf, isTypeOf, fun other occursOther same =>
    eq_of_line_eq contents occurs occursOther (same.trans isLineOf.symm)⟩

end StoreTopology

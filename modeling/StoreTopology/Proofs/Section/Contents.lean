/-
**The sections that lines describe.**

* `Contents`: settled lines describe the options and children of a section, by the grammar of nested
  blocks;
* `placeAll_of_contents`: lines that describe options and children add just these;
* `describes_of_placeAll`: lines that can be placed describe something, up to the end of the section
  that they stand in, and at the top level all that they add (`exists_contents_of_placeAll`);
* `parseLines_eq_ok_iff_contents`: the sections of a list of lines are those that it describes.
-/

import StoreTopology.Proofs.Section.Settling

namespace StoreTopology

open Text

/-! ### Numbers of lines -/

/-- Behind one more line, lines begin with the next number. -/
theorem add_length_cons {α : Type} (number : Nat) (first : α) (rest : List α) :
    number + (first :: rest).length = number + 1 + rest.length := by
  rw [List.length_cons, Nat.add_assoc, Nat.add_comm 1]

theorem add_length_block (number : Nat) (typeName : String) (name : Option String)
    (inside rest : List Line) :
    number + (Line.openTag typeName name :: (inside ++ .closeTag typeName :: rest)).length =
      number + inside.length + 2 + rest.length := by
  simp only [List.length_cons, List.length_append]
  omega

/-! ### Sections and their lines -/

/-- Siblings that have names have different ones. -/
def DistinctNames (siblings : List Section) : Prop := (siblings.filterMap Section.name).Nodup

/-- Settled lines, the first of them having the given number, describe options and children of a
section. -/
inductive Contents : Nat → List Line → List OptionLine → List Section → Prop
  | nil (number : Nat) : Contents number [] [] []
  | blank {number : Nat} {rest : List Line} {options : List OptionLine} {children : List Section}
      (later : Contents (number + 1) rest options children) :
      Contents number (.blank :: rest) options children
  | definition {number : Nat} {name : String} {value : List Char} {rest : List Line}
      {options : List OptionLine} {children : List Section}
      (later : Contents (number + 1) rest options children) :
      Contents number (.definition name value :: rest) options children
  | option {number : Nat} {key : String} {value : List Char} {rest : List Line}
      {options : List OptionLine} {children : List Section}
      (later : Contents (number + 1) rest options children) :
      Contents number (.option key value :: rest)
        (⟨lowercased key, .ofList value, number⟩ :: options) children
  | emptyTag {number : Nat} {typeName : String} {name : Option String} {rest : List Line}
      {options : List OptionLine} {children : List Section}
      (later : Contents (number + 1) rest options children) :
      Contents number (.emptyTag typeName name :: rest) options
        (⟨typeName, name, [], [], number, number⟩ :: children)
  | block {number : Nat} {typeName : String} {name : Option String} {inside rest : List Line}
      {ownOptions options : List OptionLine} {ownChildren children : List Section}
      (own : Contents (number + 1) inside ownOptions ownChildren)
      (distinct : DistinctNames ownChildren)
      (later : Contents (number + inside.length + 2) rest options children) :
      Contents number (.openTag typeName name :: (inside ++ .closeTag typeName :: rest)) options
        (⟨typeName, name, ownOptions, ownChildren, number, number + inside.length + 1⟩ :: children)

namespace Outline

variable {outline next final : Outline} {number : Nat} {lines : List Line}
  {options : List OptionLine} {children : List Section}

/-! ### Additions to an outline -/

/-- The finished sections that the next one will stand beside, newest first. -/
def siblings (outline : Outline) : List Section :=
  match outline.enclosing with
  | [] => outline.roots
  | opened :: _ => opened.children

/-- The outline with options and children added to its innermost section, or with children at the
top level. -/
def extend (outline : Outline) (options : List OptionLine) (children : List Section) : Outline :=
  match outline.enclosing with
  | [] => { outline with roots := children.reverse ++ outline.roots }
  | opened :: outer =>
    { outline with
      enclosing := { opened with
        options := options.reverse ++ opened.options
        children := children.reverse ++ opened.children } :: outer }

theorem extend_nil (outline : Outline) : outline.extend [] [] = outline := by
  obtain ⟨definitions, enclosing, roots⟩ := outline
  cases enclosing with
  | nil => rfl
  | cons opened outer => rfl

theorem extend_extend (outline : Outline) (options more : List OptionLine)
    (children others : List Section) :
    (outline.extend options children).extend more others =
      outline.extend (options ++ more) (children ++ others) := by
  obtain ⟨definitions, enclosing, roots⟩ := outline
  cases enclosing with
  | nil => simp [extend]
  | cons opened outer => simp [extend]

theorem siblings_extend (outline : Outline) (options : List OptionLine)
    (children : List Section) :
    (outline.extend options children).siblings = children.reverse ++ outline.siblings := by
  obtain ⟨definitions, enclosing, roots⟩ := outline
  cases enclosing with
  | nil => rfl
  | cons opened outer => rfl

theorem enclosing_extend_eq_nil (outline : Outline) (options : List OptionLine)
    (children : List Section) :
    (outline.extend options children).enclosing = [] ↔ outline.enclosing = [] := by
  obtain ⟨definitions, enclosing, roots⟩ := outline
  cases enclosing with
  | nil => simp [extend]
  | cons opened outer => simp [extend]

theorem nameTaken_iff {name : String} {siblings : List Section} :
    nameTaken name siblings = true ↔ name ∈ siblings.filterMap Section.name := by
  unfold nameTaken
  simp [List.mem_filterMap]

theorem addSibling_eq_ok_iff {block : Section} {siblings result : List Section} :
    addSibling block siblings = .ok result ↔
      (∀ name ∈ block.name, name ∉ siblings.filterMap Section.name) ∧
        result = block :: siblings := by
  unfold addSibling
  cases block.name with
  | none => simp [eq_comm]
  | some name =>
    dsimp only
    split
    · next taken =>
      constructor
      · intro failed
        cases failed
      · rintro ⟨free, _⟩
        exact absurd (nameTaken_iff.mp taken) (free name rfl)
    · next free =>
      constructor
      · intro same
        cases same
        refine ⟨fun _ isName used => free (nameTaken_iff.mpr ?_), rfl⟩
        rw [Option.some.inj isName]
        exact used
      · rintro ⟨_, rfl⟩
        rfl

/-- A finished section finds its place if its name is free there. -/
theorem attach_eq_ok_iff {block : Section} :
    outline.attach block = .ok next ↔
      (∀ name ∈ block.name, name ∉ outline.siblings.filterMap Section.name) ∧
        next = outline.extend [] [block] := by
  unfold attach siblings extend
  cases outline.enclosing with
  | nil =>
    dsimp only
    rw [bind_eq_ok]
    simp only [addSibling_eq_ok_iff]
    constructor
    · rintro ⟨_, ⟨free, rfl⟩, same⟩
      exact ⟨free, (Except.ok.inj same).symm⟩
    · rintro ⟨free, rfl⟩
      exact ⟨_, ⟨free, rfl⟩, rfl⟩
  | cons opened outer =>
    dsimp only
    rw [bind_eq_ok]
    simp only [addSibling_eq_ok_iff]
    constructor
    · rintro ⟨_, ⟨free, rfl⟩, same⟩
      exact ⟨free, (Except.ok.inj same).symm⟩
    · rintro ⟨free, rfl⟩
      exact ⟨_, ⟨free, rfl⟩, rfl⟩

end Outline

theorem nodup_filterMap_cons {α β : Type} {f : α → Option β} {first : α} {rest : List α} :
    ((first :: rest).filterMap f).Nodup ↔
      (∀ value ∈ f first, value ∉ rest.filterMap f) ∧ (rest.filterMap f).Nodup := by
  cases found : f first with
  | none => simp [found]
  | some value => simp [found]

theorem distinctNames_cons {block : Section} {siblings : List Section} :
    DistinctNames (block :: siblings) ↔
      (∀ name ∈ block.name, name ∉ siblings.filterMap Section.name) ∧
        DistinctNames siblings := nodup_filterMap_cons

/-- Siblings have different names if they have them after a change that leaves names alone. -/
theorem distinctNames_map {f : Section → Section} (names : ∀ block, (f block).name = block.name)
    {siblings : List Section} : DistinctNames (siblings.map f) ↔ DistinctNames siblings := by
  have same : Section.name ∘ f = Section.name := funext names
  unfold DistinctNames
  rw [List.filterMap_map, same]

theorem distinctNames_reverse {siblings : List Section} :
    DistinctNames siblings.reverse ↔ DistinctNames siblings := by
  unfold DistinctNames
  rw [List.filterMap_reverse, (List.reverse_perm _).nodup_iff]

theorem DistinctNames.of_append {first second : List Section}
    (distinct : DistinctNames (first ++ second)) : DistinctNames second := by
  unfold DistinctNames at distinct
  rw [List.filterMap_append] at distinct
  exact (List.nodup_append.mp distinct).2.1

namespace Outline

variable {outline next final : Outline} {number : Nat} {lines : List Line}
  {options : List OptionLine} {children : List Section}

/-! ### Lines that describe something can be placed -/

theorem placeAll_append_iff {more : List Line} :
    outline.placeAll number (lines ++ more) = .ok final ↔
      ∃ between, outline.placeAll number lines = .ok between ∧
        between.placeAll (number + lines.length) more = .ok final := by
  induction lines generalizing outline number with
  | nil => simp [placeAll]
  | cons line rest ih =>
    rw [List.cons_append, placeAll_cons_iff, add_length_cons]
    constructor
    · rintro ⟨next, places, others⟩
      obtain ⟨between, placesRest, placesMore⟩ := ih.mp others
      exact ⟨between, placeAll_cons_iff.mpr ⟨next, places, placesRest⟩, placesMore⟩
    · rintro ⟨between, placesAll, placesMore⟩
      obtain ⟨next, places, placesRest⟩ := placeAll_cons_iff.mp placesAll
      exact ⟨next, places, ih.mpr ⟨between, placesRest, placesMore⟩⟩

/-- The outline inside a section that was just opened. -/
def push (outline : Outline) (typeName : String) (name : Option String) (line : Nat) : Outline :=
  { outline with enclosing := { typeName, name, line } :: outline.enclosing }

/-- A closing tag of the right type puts the section that was opened beside its siblings. -/
theorem closeInnermost_push {typeName : String} {name : Option String} {line : Nat} :
    ((outline.push typeName name line).extend options children).closeInnermost typeName number =
      outline.attach ⟨typeName, name, options, children, line, number⟩ := by
  unfold closeInnermost extend push OpenSection.close
  simp

theorem place_option_eq_ok_iff {key : String} {value : List Char} :
    outline.place number (.option key value) = .ok next ↔
      outline.enclosing ≠ [] ∧
        next = outline.extend [⟨lowercased key, .ofList value, number⟩] [] := by
  unfold place extend
  cases outline.enclosing with
  | nil => simp
  | cons opened outer => simp [eq_comm]

/-- A section can be put beside siblings if it can stand among them with those that follow it. -/
theorem attach_of_distinct {block : Section}
    (distinct : DistinctNames ((block :: children).reverse ++ outline.siblings)) :
    outline.attach block = .ok (outline.extend [] [block]) ∧
      DistinctNames (children.reverse ++ (outline.extend [] [block]).siblings) := by
  rw [siblings_extend]
  rw [List.reverse_cons, List.append_assoc] at distinct
  have free := distinctNames_cons.mp distinct.of_append
  exact ⟨attach_eq_ok_iff.mpr ⟨free.1, rfl⟩, distinct⟩

/-- Lines that describe options and children add just these. -/
theorem placeAll_of_contents (contents : Contents number lines options children)
    (atTop : outline.enclosing = [] → options = [])
    (distinct : DistinctNames (children.reverse ++ outline.siblings)) :
    outline.placeAll number lines = .ok (outline.extend options children) := by
  induction contents generalizing outline with
  | nil number =>
    rw [extend_nil]
    rfl
  | blank _ ih => exact ih atTop distinct
  | definition _ ih => exact ih atTop distinct
  | @option number key value rest options children _ ih =>
    have inside : outline.enclosing ≠ [] := fun top => List.cons_ne_nil _ _ (atTop top)
    refine placeAll_cons_iff.mpr ⟨_, place_option_eq_ok_iff.mpr ⟨inside, rfl⟩, ?_⟩
    rw [ih, extend_extend]
    · rfl
    · intro top
      exact absurd ((enclosing_extend_eq_nil _ _ _).mp top) inside
    · rw [siblings_extend]
      exact distinct
  | emptyTag _ ih =>
    obtain ⟨attaches, stays⟩ := attach_of_distinct distinct
    refine placeAll_cons_iff.mpr ⟨_, attaches, ?_⟩
    rw [ih, extend_extend]
    · rfl
    · exact fun top => atTop ((enclosing_extend_eq_nil _ _ _).mp top)
    · exact stays
  | @block number typeName name inside rest ownOptions options ownChildren children _ ownDistinct _
      ihOwn ih =>
    obtain ⟨attaches, stays⟩ := attach_of_distinct distinct
    have own : (outline.push typeName name number).placeAll (number + 1) inside =
        .ok ((outline.push typeName name number).extend ownOptions ownChildren) := by
      refine ihOwn (fun top => absurd top (List.cons_ne_nil _ _)) ?_
      show DistinctNames (ownChildren.reverse ++ [])
      rw [List.append_nil]
      exact distinctNames_reverse.mpr ownDistinct
    have later := ih (fun top => atTop ((enclosing_extend_eq_nil _ _ _).mp top)) stays
    refine placeAll_cons_iff.mpr ⟨_, rfl, placeAll_append_iff.mpr ⟨_, own, ?_⟩⟩
    rw [Nat.add_right_comm number 1]
    refine placeAll_cons_iff.mpr ⟨_, closeInnermost_push.trans attaches, ?_⟩
    rw [later, extend_extend]
    rfl

/-! ### Lines that can be placed describe something -/

/-- No lines are left at the top level, or the next one closes the innermost section. -/
inductive Closes : Outline → Nat → List Line → Outline → Prop
  | atTop {outline : Outline} (number : Nat) (top : outline.enclosing = []) :
      Closes outline number [] outline
  | inside {outline next final : Outline} {number : Nat} {opened : OpenSection}
      {outer : List OpenSection} {rest : List Line}
      (innermost : outline.enclosing = opened :: outer)
      (closes : outline.closeInnermost opened.typeName number = .ok next)
      (later : next.placeAll (number + 1) rest = .ok final) :
      Closes outline number (.closeTag opened.typeName :: rest) final

/-- Lines describe options and children of the innermost section, up to the tag that closes it. -/
def Describes (outline : Outline) (number : Nat) (lines : List Line) (final : Outline) : Prop :=
  ∃ inside rest options children, lines = inside ++ rest ∧
    Contents number inside options children ∧ (outline.enclosing = [] → options = []) ∧
    DistinctNames (children.reverse ++ outline.siblings) ∧
    Closes (outline.extend options children) (number + inside.length) rest final

theorem Describes.of_closes (distinct : DistinctNames outline.siblings)
    (closes : Closes outline number lines final) : outline.Describes number lines final := by
  refine ⟨[], lines, [], [], rfl, .nil number, fun _ => rfl, distinct, ?_⟩
  rw [extend_nil]
  exact closes

/-- A piece that adds something comes before lines that describe the rest. -/
theorem Describes.extend (piece : List Line) (own : List OptionLine) (blocks : List Section)
    (describes : ∀ {inside options children},
      Contents (number + piece.length) inside options children →
        Contents number (piece ++ inside) (own ++ options) (blocks ++ children))
    (atTop : outline.enclosing = [] → own = [])
    (later : (outline.extend own blocks).Describes (number + piece.length) lines final) :
    outline.Describes number (piece ++ lines) final := by
  obtain ⟨inside, rest, options, children, rfl, contents, restTop, distinct, closes⟩ := later
  refine ⟨piece ++ inside, rest, own ++ options, blocks ++ children, ?_, describes contents,
    fun top => ?_, ?_, ?_⟩
  · rw [List.append_assoc]
  · rw [atTop top, restTop ((enclosing_extend_eq_nil _ _ _).mpr top)]
    rfl
  · rw [siblings_extend] at distinct
    rw [List.reverse_append, List.append_assoc]
    exact distinct
  · rw [extend_extend] at closes
    rw [List.length_append, ← Nat.add_assoc]
    exact closes

/-- A section comes before lines that describe the rest. -/
theorem Describes.block {typeName : String} {name : Option String} {inside : List Line}
    {own : List OptionLine} {blocks : List Section}
    (contents : Contents (number + 1) inside own blocks) (distinct : DistinctNames blocks)
    (later : (outline.extend []
      [⟨typeName, name, own, blocks, number, number + inside.length + 1⟩]).Describes
        (number + inside.length + 2) lines final) :
    outline.Describes number (.openTag typeName name :: (inside ++ .closeTag typeName :: lines))
      final := by
  have whole : (.openTag typeName name :: (inside ++ .closeTag typeName :: lines) : List Line) =
      (.openTag typeName name :: (inside ++ [.closeTag typeName])) ++ lines := by
    rw [List.cons_append, List.append_assoc, List.singleton_append]
  rw [whole]
  refine .extend _ [] [⟨typeName, name, own, blocks, number, number + inside.length + 1⟩]
    (fun {rest options children} others => ?_) (fun _ => rfl) ?_
  · rw [List.cons_append, List.append_assoc]
    refine .block contents distinct ?_
    rw [List.length_cons, List.length_append] at others
    exact others
  · rw [List.length_cons, List.length_append]
    exact later

/-- A tag closes the innermost section only if it has its type. -/
theorem innermost_of_closeInnermost {typeName : String}
    (closes : outline.closeInnermost typeName number = .ok next) :
    ∃ opened outer, outline.enclosing = opened :: outer ∧ opened.typeName = typeName := by
  unfold closeInnermost at closes
  cases innermost : outline.enclosing with
  | nil =>
    rw [innermost] at closes
    cases closes
  | cons opened outer =>
    rw [innermost] at closes
    by_cases same : opened.typeName = typeName
    · exact ⟨opened, outer, rfl, same⟩
    · dsimp only at closes
      rw [if_neg same] at closes
      cases closes

/-- Siblings have different names after another one was put beside them. -/
theorem distinct_of_attach {block : Section} (attaches : outline.attach block = .ok next)
    (distinct : DistinctNames outline.siblings) :
    next = outline.extend [] [block] ∧ DistinctNames next.siblings := by
  obtain ⟨free, rfl⟩ := attach_eq_ok_iff.mp attaches
  refine ⟨rfl, ?_⟩
  rw [siblings_extend]
  exact distinctNames_cons.mpr ⟨free, distinct⟩

/-- Lines that can be placed describe options and children of the innermost section, up to the tag
that closes it. -/
theorem describes_of_placeAll (closed : final.enclosing = []) (lines : List Line)
    (outline : Outline) (number : Nat) (places : outline.placeAll number lines = .ok final)
    (distinct : DistinctNames outline.siblings) : outline.Describes number lines final := by
  match lines, places with
  | [], places =>
    cases places
    exact .of_closes distinct (.atTop number closed)
  | line :: rest, places =>
    obtain ⟨next, placesFirst, placesRest⟩ := placeAll_cons_iff.mp places
    have later := describes_of_placeAll closed rest next (number + 1) placesRest
    cases line with
    | blank =>
      cases placesFirst
      refine .extend [.blank] [] [] .blank (fun _ => rfl) ?_
      rw [extend_nil]
      exact later distinct
    | definition name value =>
      cases placesFirst
      refine .extend [.definition name value] [] [] .definition (fun _ => rfl) ?_
      rw [extend_nil]
      exact later distinct
    | option key value =>
      obtain ⟨inside, rfl⟩ := place_option_eq_ok_iff.mp placesFirst
      refine .extend [.option key value] _ [] .option (fun top => absurd top inside) (later ?_)
      rw [siblings_extend]
      exact distinct
    | emptyTag typeName name =>
      obtain ⟨rfl, stays⟩ := distinct_of_attach placesFirst distinct
      exact .extend [.emptyTag typeName name] [] _ .emptyTag (fun _ => rfl) (later stays)
    | closeTag typeName =>
      have closes : outline.closeInnermost typeName number = .ok next := placesFirst
      obtain ⟨opened, outer, innermost, rfl⟩ := innermost_of_closeInnermost closes
      exact .of_closes distinct (.inside innermost closes placesRest)
    | openTag typeName name =>
      have pushed : next = outline.push typeName name number := (Except.ok.inj placesFirst).symm
      subst pushed
      obtain ⟨inside, after, own, blocks, rfl, contents, _, ownDistinct, closes⟩ :=
        later List.nodup_nil
      cases closes with
      | atTop number top =>
        rw [enclosing_extend_eq_nil] at top
        exact absurd top (List.cons_ne_nil _ _)
      | @inside _ next _ opened outer beyond innermost closes later =>
        have isPushed : opened.typeName = typeName :=
          congrArg OpenSection.typeName (List.cons.inj innermost).1.symm
        subst isPushed
        rw [closeInnermost_push] at closes
        obtain ⟨rfl, stays⟩ := distinct_of_attach closes distinct
        have ownNames : DistinctNames blocks := by
          have reversed : DistinctNames (blocks.reverse ++ []) := ownDistinct
          rw [List.append_nil] at reversed
          exact distinctNames_reverse.mp reversed
        have others := describes_of_placeAll closed beyond _ _ later stays
        rw [Nat.add_right_comm number 1] at others
        exact .block contents ownNames others
termination_by lines.length

/-! ### Lines at the top level -/

/-- Lines that describe a forest add just this to an empty outline. -/
theorem placeAll_empty_of_contents {forest : List Section}
    (contents : Contents number lines [] forest) (distinct : DistinctNames forest) :
    placeAll {} number lines = .ok { roots := forest.reverse } := by
  have names : DistinctNames (forest.reverse ++ siblings {}) := by
    show DistinctNames (forest.reverse ++ [])
    rw [List.append_nil]
    exact distinctNames_reverse.mpr distinct
  rw [placeAll_of_contents contents (fun _ => rfl) names]
  show Except.ok (Outline.mk .empty [] (forest.reverse ++ [])) = _
  rw [List.append_nil]

/-- Lines that can be placed at the top level, and leave no section open, describe what they add. -/
theorem exists_contents_of_placeAll (top : outline.enclosing = []) (closed : final.enclosing = [])
    (distinct : DistinctNames outline.siblings)
    (places : outline.placeAll number lines = .ok final) :
    ∃ forest, Contents number lines [] forest ∧
      DistinctNames (forest.reverse ++ outline.siblings) ∧ final = outline.extend [] forest := by
  obtain ⟨inside, rest, options, forest, rfl, contents, atTop, stays, closes⟩ :=
    describes_of_placeAll closed lines outline number places distinct
  cases atTop top
  cases closes with
  | inside innermost _ _ =>
    rw [(enclosing_extend_eq_nil outline [] forest).mpr top] at innermost
    cases innermost
  | atTop number _ =>
    rw [List.append_nil]
    exact ⟨forest, contents, stays, rfl⟩

end Outline

/-- **The sections of a list of lines are those that it describes.** -/
theorem parseLines_eq_ok_iff_contents {raws : List (List Char)} {forest : List Section} :
    parseLines raws = .ok forest ↔
      ∃ said settled last, raws.map Line.classify = said.map .ok ∧
        settleAll .empty said = .ok (settled, last) ∧ Contents 1 settled [] forest ∧
        DistinctNames forest := by
  rw [parseLines_eq_ok_iff]
  constructor
  · rintro ⟨said, settled, last, placed, classified, settles, places, closed, rfl⟩
    have nothing : DistinctNames (Outline.siblings {}) := List.nodup_nil
    obtain ⟨blocks, contents, distinct, rfl⟩ :=
      Outline.exists_contents_of_placeAll rfl closed nothing places
    have forest : (Outline.extend {} [] blocks).roots.reverse = blocks := by
      show (blocks.reverse ++ []).reverse = blocks
      rw [List.append_nil, List.reverse_reverse]
    have names : DistinctNames (blocks.reverse ++ []) := distinct
    rw [List.append_nil, distinctNames_reverse] at names
    rw [forest]
    exact ⟨said, settled, last, classified, settles, contents, names⟩
  · rintro ⟨said, settled, last, classified, settles, contents, distinct⟩
    exact ⟨said, settled, last, _, classified, settles,
      Outline.placeAll_empty_of_contents contents distinct, rfl, List.reverse_reverse forest⟩

end StoreTopology

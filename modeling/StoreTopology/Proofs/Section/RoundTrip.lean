/-
**Sections are read back as they were written.**

* `Section.IsWellFormed`: the names, keys and values of a section, and of all sections below it, can
  be written;
* `Written`: lines are a way to write options and children, with one construct on each line;
* `parse_of_written`: a text that was written for sections has just these sections.
-/

import StoreTopology.Proofs.Section.Contents
import StoreTopology.Proofs.Section.WrittenLine

namespace StoreTopology

open Text Line

/-! ### Sections that can be written -/

structure OptionLine.IsWellFormed (option : OptionLine) : Prop where
  key : IsOwnName option.key
  value : IsOwnValue option.value

/-- The names, keys and values of a section can be written, siblings below it have different names,
and so it is for all sections nested in it. -/
inductive Section.IsWellFormed : Section → Prop
  | intro {block : Section} (typeName : IsOwnName block.typeName)
      (name : ∀ text ∈ block.name, IsOwnSectionName text)
      (options : ∀ option ∈ block.options, option.IsWellFormed)
      (distinct : DistinctNames block.children)
      (children : ∀ child ∈ block.children, child.IsWellFormed) : block.IsWellFormed

/-- Lines, the first of them having the given number, are a way to write options and children of a
section. Options and children may alternate. A section with neither may be written as one tag. -/
inductive Written : Nat → List (List Char) → List OptionLine → List Section → Prop
  | nil (number : Nat) : Written number [] [] []
  | option {number : Nat} {key value : String} {rest : List (List Char)}
      {options : List OptionLine} {children : List Section}
      (later : Written (number + 1) rest options children) :
      Written number (optionText key value :: rest) (⟨key, value, number⟩ :: options) children
  | empty {number : Nat} {typeName : String} {name : Option String} {rest : List (List Char)}
      {options : List OptionLine} {children : List Section}
      (later : Written (number + 1) rest options children) :
      Written number (emptyText typeName name :: rest) options
        (⟨typeName, name, [], [], number, number⟩ :: children)
  | block {number : Nat} {typeName : String} {name : Option String}
      {inside rest : List (List Char)} {ownOptions options : List OptionLine}
      {ownChildren children : List Section}
      (own : Written (number + 1) inside ownOptions ownChildren)
      (later : Written (number + inside.length + 2) rest options children) :
      Written number (openText typeName name :: (inside ++ closeText typeName :: rest)) options
        (⟨typeName, name, ownOptions, ownChildren, number, number + inside.length + 1⟩ :: children)

variable {number : Nat} {raws more : List (List Char)} {settled later : List Line}
  {options : List OptionLine} {children forest : List Section}

/-! ### Reading what was written -/

/-- Lines are read as other lines, whatever is defined, and define nothing. -/
def ReadAs (raws : List (List Char)) (settled : List Line) : Prop :=
  ∃ said, raws.map classify = said.map .ok ∧
    ∀ definitions, settleAll definitions said = .ok (settled, definitions)

namespace ReadAs

theorem nil : ReadAs [] [] := ⟨[], rfl, fun _ => rfl⟩

theorem single {raw : List Char} {said line : Line} (classified : classify raw = .ok said)
    (settles : ∀ definitions, said.settle definitions = .ok (line, definitions)) :
    ReadAs [raw] [line] := by
  refine ⟨[said], by rw [List.map_singleton, List.map_singleton, classified], fun definitions => ?_⟩
  exact settleAll_cons_iff.mpr ⟨line, definitions, [], settles definitions, rfl, rfl⟩

theorem append (first : ReadAs raws settled) (second : ReadAs more later) :
    ReadAs (raws ++ more) (settled ++ later) := by
  obtain ⟨said, classified, settles⟩ := first
  obtain ⟨others, classifies, settlesMore⟩ := second
  refine ⟨said ++ others, ?_, fun definitions => ?_⟩
  · rw [List.map_append, List.map_append, classified, classifies]
  · exact settleAll_append_iff.mpr
      ⟨settled, definitions, later, settles definitions, settlesMore definitions, rfl⟩

theorem cons {raw : List Char} {line : Line} (first : ReadAs [raw] [line])
    (second : ReadAs more later) : ReadAs (raw :: more) (line :: later) := first.append second

theorem length_eq (read : ReadAs raws settled) : settled.length = raws.length := by
  obtain ⟨said, classified, settles⟩ := read
  have lengths := congrArg List.length classified
  rw [List.length_map, List.length_map] at lengths
  rw [length_of_settleAll (settles .empty), lengths]

theorem optionText {key value : String} (isKey : IsOwnName key) (isValue : IsOwnValue value) :
    ReadAs [optionText key value] [.option key value.toList] :=
  single (classify_optionText isKey isValue) fun definitions =>
    settle_option_iff.mpr ⟨_, substitute_doubled definitions _, rfl, rfl⟩

end ReadAs

/-- Lines that were written for options and children describe them. -/
theorem exists_readAs_of_written (written : Written number raws options children)
    (optionsFormed : ∀ option ∈ options, option.IsWellFormed)
    (childrenFormed : ∀ child ∈ children, child.IsWellFormed) :
    ∃ settled, ReadAs raws settled ∧ Contents number settled options children := by
  induction written with
  | nil number => exact ⟨[], .nil, .nil number⟩
  | @option number key value rest options children _ ih =>
    obtain ⟨formed, others⟩ := List.forall_mem_cons.mp optionsFormed
    obtain ⟨settled, read, contents⟩ := ih others childrenFormed
    have option : Contents number (.option key value.toList :: settled)
        (⟨lowercased key, .ofList value.toList, number⟩ :: options) children := .option contents
    rw [formed.key.isLower, String.ofList_toList] at option
    exact ⟨_, .cons (.optionText formed.key formed.value) read, option⟩
  | empty _ ih =>
    obtain ⟨⟨typeName, name, _, _, _⟩, others⟩ := List.forall_mem_cons.mp childrenFormed
    obtain ⟨settled, read, contents⟩ := ih optionsFormed others
    have tag := ReadAs.single (classify_emptyText typeName name) fun _ => rfl
    exact ⟨_, .cons tag read, .emptyTag contents⟩
  | block _ _ ihOwn ih =>
    obtain ⟨⟨typeName, name, ownOptions, distinct, ownChildren⟩, others⟩ :=
      List.forall_mem_cons.mp childrenFormed
    obtain ⟨inside, readInside, own⟩ := ihOwn ownOptions ownChildren
    obtain ⟨settled, read, contents⟩ := ih optionsFormed others
    have opening := ReadAs.single (classify_openText typeName name) fun _ => rfl
    have closing := ReadAs.single (classify_closeText typeName) fun _ => rfl
    rw [← readInside.length_eq] at contents ⊢
    exact ⟨_, .cons opening (readInside.append (.cons closing read)), .block own distinct contents⟩

theorem isLine_of_written (written : Written number raws options children)
    (optionsFormed : ∀ option ∈ options, option.IsWellFormed)
    (childrenFormed : ∀ child ∈ children, child.IsWellFormed) : ∀ raw ∈ raws, IsLine raw := by
  induction written with
  | nil number => exact fun _ none => nomatch none
  | option _ ih =>
    obtain ⟨formed, others⟩ := List.forall_mem_cons.mp optionsFormed
    exact List.forall_mem_cons.mpr
      ⟨isLine_optionText formed.key formed.value, ih others childrenFormed⟩
  | empty _ ih =>
    obtain ⟨⟨typeName, name, _, _, _⟩, others⟩ := List.forall_mem_cons.mp childrenFormed
    exact List.forall_mem_cons.mpr ⟨isLine_emptyText typeName name, ih optionsFormed others⟩
  | block _ _ ihOwn ih =>
    obtain ⟨⟨typeName, name, ownOptions, _, ownChildren⟩, others⟩ :=
      List.forall_mem_cons.mp childrenFormed
    refine List.forall_mem_cons.mpr ⟨isLine_openText typeName name, fun raw present => ?_⟩
    rcases List.mem_append.mp present with inside | after
    · exact ihOwn ownOptions ownChildren raw inside
    · exact List.forall_mem_cons.mpr
        ⟨isLine_closeText typeName, ih optionsFormed others⟩ raw after

theorem ne_nil_of_written (written : Written number raws options children) :
    ∀ raw ∈ raws, raw ≠ [] := by
  induction written with
  | nil number => exact fun _ none => nomatch none
  | @option _ key _ _ _ _ _ ih =>
    refine List.forall_mem_cons.mpr ⟨?_, ih⟩
    exact List.append_ne_nil_of_right_ne_nil key.toList (List.cons_ne_nil _ _)
  | empty _ ih => exact List.forall_mem_cons.mpr ⟨List.cons_ne_nil _ _, ih⟩
  | block _ _ ihOwn ih =>
    refine List.forall_mem_cons.mpr ⟨List.cons_ne_nil _ _, fun raw present => ?_⟩
    rcases List.mem_append.mp present with inside | after
    · exact ihOwn raw inside
    · rcases List.mem_cons.mp after with rfl | others
      · exact List.cons_ne_nil _ _
      · exact ih raw others

/-- A text that was written for sections has just these sections. -/
theorem parse_of_written {text : List Char} (written : Written 1 raws [] forest)
    (formed : ∀ block ∈ forest, block.IsWellFormed) (distinct : DistinctNames forest)
    (holds : HoldsLines text raws) : parse (.ofList text) = .ok forest := by
  have noOptions : ∀ option ∈ ([] : List OptionLine), option.IsWellFormed :=
    fun _ none => nomatch none
  obtain ⟨settled, ⟨said, classified, settles⟩, contents⟩ :=
    exists_readAs_of_written written noOptions formed
  unfold parse
  rw [String.toList_ofList, holds.lines_eq (isLine_of_written written noOptions formed)
    fun empty => ne_nil_of_written written [] empty rfl]
  exact parseLines_eq_ok_iff_contents.mpr
    ⟨said, settled, .empty, classified, settles .empty, contents, distinct⟩

/-! ### Writing sections -/

/-- The option line without its number. -/
def OptionLine.unnumbered (option : OptionLine) : OptionLine := { option with line := 0 }

mutual

/-- The section without the numbers of its lines. -/
def Section.unnumbered : Section → Section
  | ⟨typeName, name, options, children, _, _⟩ =>
    ⟨typeName, name, options.map OptionLine.unnumbered, unnumberedAll children, 0, 0⟩

def unnumberedAll : List Section → List Section
  | [] => []
  | block :: rest => block.unnumbered :: unnumberedAll rest

end

/-- An item has a counterpart in a list with the same images. -/
theorem exists_of_map_eq {α β : Type} {f : α → β} {first second : List α}
    (same : first.map f = second.map f) {item : α} (present : item ∈ first) :
    ∃ original ∈ second, f original = f item := by
  have listed : f item ∈ first.map f := List.mem_map_of_mem present
  rw [same] at listed
  exact List.mem_map.mp listed

theorem unnumberedAll_eq_map (forest : List Section) :
    unnumberedAll forest = forest.map Section.unnumbered := by
  induction forest with
  | nil => rfl
  | cons block rest ih => rw [unnumberedAll, ih, List.map_cons]

theorem unnumbered_name (block : Section) : block.unnumbered.name = block.name := by
  cases block
  rfl

theorem distinctNames_unnumberedAll :
    DistinctNames (unnumberedAll forest) ↔ DistinctNames forest := by
  rw [unnumberedAll_eq_map, distinctNames_map unnumbered_name]

/-- Whether a section can be written does not depend on the numbers of its lines. -/
theorem Section.IsWellFormed.of_unnumbered {block other : Section} (formed : block.IsWellFormed)
    (same : other.unnumbered = block.unnumbered) : other.IsWellFormed := by
  induction formed generalizing other with
  | @intro block typeName name options distinct children ih =>
    obtain ⟨blockType, blockName, blockOptions, blockChildren, _, _⟩ := block
    obtain ⟨otherType, otherName, otherOptions, otherChildren, _, _⟩ := other
    rw [unnumbered, unnumbered, Section.mk.injEq] at same
    obtain ⟨rfl, rfl, sameOptions, sameChildren, _, _⟩ := same
    refine .intro typeName name (fun option present => ?_) ?_ (fun child present => ?_)
    · obtain ⟨original, inBlock, isSame⟩ := exists_of_map_eq sameOptions present
      obtain ⟨sameKey, sameValue, _⟩ := OptionLine.mk.inj isSame
      exact ⟨sameKey ▸ (options original inBlock).key, sameValue ▸ (options original inBlock).value⟩
    · rw [← distinctNames_unnumberedAll] at distinct ⊢
      exact sameChildren ▸ distinct
    · rw [unnumberedAll_eq_map, unnumberedAll_eq_map] at sameChildren
      obtain ⟨original, inBlock, isSame⟩ := exists_of_map_eq sameChildren present
      exact ih original inBlock isSame.symm

/-- Options can be written before what was written. -/
theorem exists_written_options (listed : List OptionLine)
    (written : Written (number + listed.length) raws [] children) :
    ∃ raws options, Written number raws options children ∧
      options.map OptionLine.unnumbered = listed.map OptionLine.unnumbered := by
  induction listed generalizing number with
  | nil => exact ⟨raws, [], written, rfl⟩
  | cons option rest ih =>
    rw [add_length_cons] at written
    obtain ⟨later, options, writtenRest, same⟩ := ih written
    refine ⟨optionText option.key option.value :: later,
      ⟨option.key, option.value, number⟩ :: options, .option writtenRest, ?_⟩
    rw [List.map_cons, List.map_cons, same]
    rfl

/-- Sections can be written, one after another. -/
theorem exists_written : (forest : List Section) → (number : Nat) →
    ∃ raws numbered, Written number raws [] numbered ∧ unnumberedAll numbered = unnumberedAll forest
  | [], number => ⟨[], [], .nil number, rfl⟩
  | ⟨typeName, name, listed, children, line, endLine⟩ :: rest, number => by
    obtain ⟨below, blocks, writtenBelow, sameChildren⟩ :=
      exists_written children (number + 1 + listed.length)
    obtain ⟨inside, options, writtenOwn, sameOptions⟩ := exists_written_options listed writtenBelow
    obtain ⟨raws, numbered, written, same⟩ := exists_written rest (number + inside.length + 2)
    refine ⟨openText typeName name :: (inside ++ closeText typeName :: raws),
      ⟨typeName, name, options, blocks, number, number + inside.length + 1⟩ :: numbered,
      .block writtenOwn written, ?_⟩
    rw [unnumberedAll, unnumberedAll, Section.unnumbered, Section.unnumbered, sameOptions,
      sameChildren, same]

/-- **Sections are read back as they were written.** Whatever way sections are written in, with the
numbers that their lines have in it, and there is a way for all sections that can be written. -/
theorem parse_written (formed : ∀ block ∈ forest, block.IsWellFormed)
    (distinct : DistinctNames forest) :
    (∀ raws numbered text, Written 1 raws [] numbered →
      unnumberedAll numbered = unnumberedAll forest → HoldsLines text raws →
        parse (.ofList text) = .ok numbered) ∧
      ∃ raws numbered, Written 1 raws [] numbered ∧
        unnumberedAll numbered = unnumberedAll forest := by
  refine ⟨fun raws numbered text written same holds => ?_, exists_written forest 1⟩
  refine parse_of_written written (fun block present => ?_) ?_ holds
  · rw [unnumberedAll_eq_map, unnumberedAll_eq_map] at same
    obtain ⟨original, inForest, isSame⟩ := exists_of_map_eq same present
    exact (formed original inForest).of_unnumbered isSame.symm
  · rw [← distinctNames_unnumberedAll] at distinct ⊢
    exact same ▸ distinct

/-- A database over a mapping storage, with one option, is read back. -/
theorem parse_written_database :
    let child : Section := ⟨"mappingstorage", none, [], [], 3, 3⟩
    let block : Section := ⟨"zodb", some "main", [⟨"cache-size", "5$", 2⟩], [child], 1, 4⟩
    parse "<zodb main>\ncache-size 5$$\n<mappingstorage/>\n</zodb>\n" = .ok [block] := by
  intro child block
  have childFormed : child.IsWellFormed :=
    .intro ⟨by decide +kernel, by decide +kernel⟩ (fun _ none => nomatch none)
      (fun _ none => nomatch none) List.nodup_nil (fun _ none => nomatch none)
  have optionFormed : OptionLine.IsWellFormed ⟨"cache-size", "5$", 2⟩ := by
    refine ⟨⟨by decide +kernel, by decide +kernel⟩, by decide, ⟨?_, ?_⟩, by decide⟩
    · rintro c ⟨⟩
      decide
    · rintro c ⟨⟩
      decide
  have nameFormed : ∀ text ∈ some "main", IsOwnSectionName text := by
    rintro _ ⟨⟩
    exact ⟨by decide, by decide +kernel, List.all_eq_true.mp (by decide)⟩
  have blockFormed : block.IsWellFormed :=
    .intro ⟨by decide +kernel, by decide +kernel⟩ nameFormed
      (List.forall_mem_singleton.mpr optionFormed) List.nodup_nil
      (List.forall_mem_singleton.mpr childFormed)
  have distinct : DistinctNames [block] := by
    show ["main"].Nodup
    decide
  have written : Written 1 (openText "zodb" (some "main") ::
      ([optionText "cache-size" "5$", emptyText "mappingstorage" none] ++ [closeText "zodb"]))
      [] [block] := .block (.option (.empty (.nil 4))) (.nil 5)
  have text : String.ofList (joined (openText "zodb" (some "main") ::
      ([optionText "cache-size" "5$", emptyText "mappingstorage" none] ++ [closeText "zodb"]))) =
      "<zodb main>\ncache-size 5$$\n<mappingstorage/>\n</zodb>\n" := by decide +kernel
  rw [← text]
  exact (parse_written (List.forall_mem_singleton.mpr blockFormed) distinct).1 _ _ _ written rfl
    (.inl rfl)

end StoreTopology

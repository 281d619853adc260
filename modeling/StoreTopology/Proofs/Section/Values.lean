/-
**The values of options as they are recorded.**

An option is recorded with what its value stands for. This is trimmed and not empty exactly if the
value is firm; only a name that is defined without a value can make it otherwise. Sections with such
values can be written, and are read back as they were.

* `allRecorded_of_contents`: every option of a section, at whatever depth, is that of a line;
* `isWellFormed_of_contents`: sections that lines in form describe can be written;
* `parse_values`: the values of a text that has sections;
* `parse_values_hollow`: a value with a blank in front, and an empty one.
-/

import StoreTopology.Proofs.Section.Extent
import StoreTopology.Proofs.Section.Firmness
import StoreTopology.Proofs.Section.RoundTrip

namespace StoreTopology

open Text Line

variable {number : Nat} {lines said settled : List Line} {options : List OptionLine}
  {children forest : List Section} {option : OptionLine} {last : Definitions}

/-! ### Options and their lines -/

/-- The option is that of one of the lines, the first of them having the given number. -/
def Recorded (number : Nat) (lines : List Line) (option : OptionLine) : Prop :=
  ∃ index key value, lines[index]? = some (.option key value) ∧
    option = ⟨lowercased key, .ofList value, number + index⟩

/-- Options and those of sections, at whatever depth, are those of the lines. -/
structure AllRecorded (number : Nat) (lines : List Line) (options : List OptionLine)
    (children : List Section) : Prop where
  own : ∀ option ∈ options, Recorded number lines option
  inside : ∀ block, Section.Occurs children block → ∀ option ∈ block.options,
    Recorded number lines option

theorem Recorded.within (before after : List Line)
    (recorded : Recorded (number + before.length) lines option) :
    Recorded number (before ++ (lines ++ after)) option := by
  obtain ⟨index, key, value, found, rfl⟩ := recorded
  refine ⟨before.length + index, key, value, ?_, by rw [Nat.add_assoc]⟩
  obtain ⟨within, _⟩ := List.getElem?_eq_some_iff.mp found
  rw [List.getElem?_append_right (Nat.le_add_right _ _), Nat.add_sub_cancel_left,
    List.getElem?_append_left within, found]

theorem AllRecorded.within (before after : List Line)
    (recorded : AllRecorded (number + before.length) lines options children) :
    AllRecorded number (before ++ (lines ++ after)) options children where
  own := fun option present => (recorded.own option present).within before after
  inside := fun block occurs option present =>
    (recorded.inside block occurs option present).within before after

theorem AllRecorded.cons (first : Line)
    (recorded : AllRecorded (number + 1) lines options children) :
    AllRecorded number (first :: lines) options children := by
  have within := recorded.within [first] []
  rw [List.append_nil] at within
  exact within

/-- All options that lines describe, at whatever depth, are recorded from these lines. -/
theorem allRecorded_of_contents (contents : Contents number lines options children) :
    AllRecorded number lines options children := by
  induction contents with
  | nil number =>
    exact ⟨List.forall_mem_nil _, fun _ occurs => absurd occurs Section.not_occurs_nil⟩
  | blank _ ih => exact ih.cons _
  | definition _ ih => exact ih.cons _
  | option _ ih =>
    obtain ⟨own, inside⟩ := ih.cons (.option _ _)
    exact ⟨List.forall_mem_cons.mpr ⟨⟨0, _, _, rfl, rfl⟩, own⟩, inside⟩
  | emptyTag _ ih =>
    obtain ⟨own, inside⟩ := ih.cons (.emptyTag _ _)
    refine ⟨own, fun block occurs option present => ?_⟩
    rcases Section.occurs_cons occurs with rfl | nested | later
    · cases present
    · exact absurd nested Section.not_occurs_nil
    · exact inside block later option present
  | @block number typeName name lines rest _ _ _ _ _ _ _ ihOwn ih =>
    have nestedRecorded := ihOwn.within [.openTag typeName name] (.closeTag typeName :: rest)
    have shifted : number + lines.length + 2 =
        number + (.openTag typeName name :: (lines ++ [.closeTag typeName])).length := by
      simp only [List.length_cons, List.length_append, List.length_nil]
      omega
    rw [shifted] at ih
    have laterRecorded := ih.within (.openTag typeName name :: (lines ++ [.closeTag typeName])) []
    rw [List.append_nil, List.cons_append, List.append_assoc] at laterRecorded
    refine ⟨laterRecorded.own, fun block occurs option present => ?_⟩
    rcases Section.occurs_cons occurs with rfl | nested | later
    · exact nestedRecorded.own option present
    · exact nestedRecorded.inside block nested option present
    · exact laterRecorded.inside block later option present

/-! ### Sections that can be written -/

theorem isOwnValue_of_isValue {value : List Char} (isValue : IsValue value)
    (notEmpty : value ≠ []) : IsOwnValue (.ofList value) := by
  rw [← String.toList_ofList (l := value)] at isValue notEmpty
  exact ⟨notEmpty, isValue.trimmed, isValue.noLineFeed⟩

/-- Sections that lines in form describe can be written. -/
theorem isWellFormed_of_contents (contents : Contents number lines options children)
    (formed : ∀ line ∈ lines, line.IsFormed) :
    (∀ option ∈ options, option.IsWellFormed) ∧ ∀ child ∈ children, child.IsWellFormed := by
  induction contents with
  | nil number => exact ⟨List.forall_mem_nil _, List.forall_mem_nil _⟩
  | blank _ ih => exact ih (List.forall_mem_cons.mp formed).2
  | definition _ ih => exact ih (List.forall_mem_cons.mp formed).2
  | option _ ih =>
    obtain ⟨first, others⟩ := List.forall_mem_cons.mp formed
    obtain ⟨optionsFormed, childrenFormed⟩ := ih others
    cases first with
    | option isKey isValue notEmpty =>
      exact ⟨List.forall_mem_cons.mpr ⟨⟨isOwnName_lowercased isKey,
        isOwnValue_of_isValue isValue notEmpty⟩, optionsFormed⟩, childrenFormed⟩
  | emptyTag _ ih =>
    obtain ⟨first, others⟩ := List.forall_mem_cons.mp formed
    obtain ⟨optionsFormed, childrenFormed⟩ := ih others
    cases first with
    | emptyTag isType isSectionName =>
      exact ⟨optionsFormed, List.forall_mem_cons.mpr ⟨.intro isType isSectionName
        (List.forall_mem_nil _) List.nodup_nil (List.forall_mem_nil _), childrenFormed⟩⟩
  | block _ distinct _ ihOwn ih =>
    obtain ⟨first, others⟩ := List.forall_mem_cons.mp formed
    obtain ⟨inside, behind⟩ := List.forall_mem_append.mp others
    obtain ⟨ownOptions, ownChildren⟩ := ihOwn inside
    obtain ⟨optionsFormed, childrenFormed⟩ := ih (List.forall_mem_cons.mp behind).2
    cases first with
    | openTag isType isSectionName =>
      exact ⟨optionsFormed, List.forall_mem_cons.mpr ⟨.intro isType isSectionName
        ownOptions distinct ownChildren, childrenFormed⟩⟩

/-- Sections are read back in whatever way they are written, with the numbers that their lines have
in it, and there is a way to write them. -/
def ReadBack (forest : List Section) : Prop :=
  (∀ raws numbered text, Written 1 raws [] numbered →
    unnumberedAll numbered = unnumberedAll forest → HoldsLines text raws →
      parse (.ofList text) = .ok numbered) ∧
    ∃ raws numbered, Written 1 raws [] numbered ∧ unnumberedAll numbered = unnumberedAll forest

theorem readBack_of_isWellFormed (formed : ∀ block ∈ forest, block.IsWellFormed)
    (distinct : DistinctNames forest) : ReadBack forest := by
  refine ⟨fun raws numbered text written same holds => ?_, exists_written forest 1⟩
  have names : DistinctNames numbered := by
    rw [← distinctNames_unnumberedAll, same, distinctNames_unnumberedAll]
    exact distinct
  rw [unnumberedAll_eq_map, unnumberedAll_eq_map] at same
  refine parse_of_written written (fun block present => ?_) names holds
  obtain ⟨original, inForest, isSame⟩ := exists_of_map_eq same present
  exact (formed original inForest).of_unnumbered isSame.symm

/-! ### Values of a text -/

/-- Settled lines are in form if the lines are, and the values of options stand for something
without blanks at its ends. -/
theorem isFormed_of_settlesTo (settles : List.Forall₂ (SettlesTo last) said settled)
    (formed : ∀ line ∈ said, line.IsFormed)
    (values : ∀ key value, .option key value ∈ said → ∀ text, substitute last value = .ok text →
      IsValue text ∧ text ≠ []) : ∀ line ∈ settled, line.IsFormed := by
  induction settles with
  | nil => exact List.forall_mem_nil _
  | cons settlesTo _ ih =>
    obtain ⟨first, others⟩ := List.forall_mem_cons.mp formed
    refine List.forall_mem_cons.mpr ⟨?_, ih others fun key value later =>
      values key value (List.mem_cons_of_mem _ later)⟩
    cases settlesTo with
    | definition _ _ => exact .blank
    | option replaced =>
      obtain ⟨isValue, notEmpty⟩ := values _ _ List.mem_cons_self _ replaced
      cases first with
      | option isKey _ _ => exact .option isKey isValue notEmpty
    | same _ => exact first

/-- The values of options stand for something without blanks at its ends if they are firm. -/
theorem isValue_of_isFirm (settles : settleAll .empty said = .ok (settled, last))
    (formed : ∀ line ∈ said, line.IsFormed) {line : Line} (present : line ∈ said)
    {value text : List Char} (isValue : line.value? = some value)
    (replaced : substitute last value = .ok text) :
    IsOwnValue (.ofList text) ↔ IsFirm said value := by
  have noLineFeed :=
    noLineFeed_of_substitute settles formed line present value isValue text replaced
  rw [isFirm_iff settles present isValue replaced]
  constructor
  · intro own
    rw [← String.toList_ofList (l := text)]
    exact ⟨own.notEmpty, own.trimmed⟩
  · rintro ⟨notEmpty, trimmed⟩
    exact isOwnValue_of_isValue ⟨trimmed, noLineFeed⟩ notEmpty

/-- **The values of options as they are recorded.** Every option of a section, at whatever depth, is
that of a line, and its value is trimmed and not empty exactly if the value on this line is firm.
All values are, if no name is defined without a value. If all are, the sections are read back as
they were, in whatever way they are written. -/
theorem parse_values {text : String} (parsed : parse text = .ok forest) :
    ∃ said, (Text.lines text.toList).map Line.classify = said.map .ok ∧
      (∀ block, Section.Occurs forest block → ∀ option ∈ block.options,
        ∃ index key value, option.line = index + 1 ∧ said[index]? = some (.option key value) ∧
          option.key = lowercased key ∧ (IsOwnValue option.value ↔ IsFirm said value)) ∧
      ((∀ name, .definition name [] ∉ said) → ∀ key value, .option key value ∈ said →
        IsFirm said value) ∧
      ((∀ key value, .option key value ∈ said → IsFirm said value) → ReadBack forest) := by
  obtain ⟨said, settled, last, classified, settles, contents, distinct⟩ :=
    parseLines_eq_ok_iff_contents.mp parsed
  have becomes := (settlesTo_of_settleAll settles).2
  have formed : ∀ line ∈ said, line.IsFormed := by
    intro line present
    have isOk : Except.ok line ∈ (Text.lines text.toList).map Line.classify :=
      classified ▸ List.mem_map_of_mem present
    obtain ⟨raw, isLine, isSaid⟩ := List.mem_map.mp isOk
    exact isFormed_of_classify (noLineFeed_of_mem_lines raw isLine) isSaid
  refine ⟨said, classified, fun block occurs option present => ?_,
    fun noEmpty key value isOption => ?_, fun firm => ?_⟩
  · obtain ⟨index, key, own, found, rfl⟩ :=
      (allRecorded_of_contents contents).inside block occurs option present
    obtain ⟨value, isOption, replaced⟩ := exists_option_of_settled becomes found
    exact ⟨index, key, value, Nat.add_comm 1 index, isOption, rfl,
      isValue_of_isFirm settles formed (List.mem_of_getElem? isOption) rfl replaced⟩
  · exact isFirm_of_noEmpty settles formed noEmpty _ isOption value rfl
  · refine readBack_of_isWellFormed (isWellFormed_of_contents contents ?_).2 distinct
    refine isFormed_of_settlesTo becomes formed fun key value isOption own replaced => ?_
    have isFirm := firm key value isOption
    obtain ⟨notEmpty, trimmed⟩ := (isFirm_iff settles isOption rfl replaced).mp isFirm
    exact ⟨⟨trimmed, noLineFeed_of_substitute settles formed _ isOption value rfl own replaced⟩,
      notEmpty⟩

/-- A definition that ends with a doubled dollar sign, and an option that refers to it at its end. -/
def definedText : String := "%define size 2$$\n<zodb>\ncache up to $size\n</zodb>"

/-- The value of the option is put together, and the section is read back. -/
theorem parse_values_defined :
    parse definedText = .ok [⟨"zodb", none, [⟨"cache", "up to 2$", 3⟩], [], 2, 4⟩] ∧
      ReadBack [⟨"zodb", none, [⟨"cache", "up to 2$", 3⟩], [], 2, 4⟩] := by
  have parsed : parse definedText = .ok [⟨"zodb", none, [⟨"cache", "up to 2$", 3⟩], [], 2, 4⟩] :=
    toOption_eq_some_iff.mp (by decide +kernel)
  obtain ⟨said, classified, _, firm, readBack⟩ := parse_values parsed
  have read : ((Text.lines definedText.toList).map Line.classify).map Except.toOption =
      [.definition "size" ['2', '$', '$'], .openTag "zodb" none,
        .option "cache" "up to $size".toList, .closeTag "zodb"].map some := by decide +kernel
  rw [classified, List.map_map] at read
  have isSaid := List.map_injective_iff.mpr (fun _ _ => Option.some.inj) read
  have noEmpty : ∀ name, Line.definition name [] ∉ said := by
    intro name present
    rw [isSaid] at present
    simp at present
  exact ⟨parsed, readBack (firm noEmpty)⟩

/-- A name is defined without a value before an option is given. -/
def hollowText (value : String) : String := "%define e\n<s>\n  k " ++ value ++ "\n</s>\n"

/-- Behind a reference to the name, a blank begins the value of the option, and the section is not
read back. The reference alone gives no value at all. -/
theorem parse_values_hollow :
    parse (hollowText "$e x") = .ok [⟨"s", none, [⟨"k", " x", 3⟩], [], 2, 4⟩] ∧
      ¬ Trimmed " x".toList ∧ ¬ ReadBack [⟨"s", none, [⟨"k", " x", 3⟩], [], 2, 4⟩] ∧
      parse (hollowText "$e") = .ok [⟨"s", none, [⟨"k", "", 3⟩], [], 2, 4⟩] := by
  refine ⟨toOption_eq_some_iff.mp (by decide +kernel), fun trimmed => ?_, fun readBack => ?_,
    toOption_eq_some_iff.mp (by decide +kernel)⟩
  · exact absurd (trimmed.1 ' ' rfl) (by decide)
  · have written : Written 1 [openText "s" none, optionText "k" " x", closeText "s"] []
        [⟨"s", none, [⟨"k", " x", 2⟩], [], 1, 3⟩] := .block (.option (.nil 3)) (.nil 4)
    have same := readBack.1 _ _ _ written rfl (.inl rfl)
    have other : parse (.ofList (joined [openText "s" none, optionText "k" " x", closeText "s"])) =
        .ok [⟨"s", none, [⟨"k", "x", 2⟩], [], 1, 3⟩] := toOption_eq_some_iff.mp (by decide +kernel)
    rw [other] at same
    exact absurd (Except.ok.inj same) (by decide)

end StoreTopology

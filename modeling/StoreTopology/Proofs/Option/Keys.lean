/-
**Which declared keys a text can set.**

The key of an option is recorded in lowercase, and looked up among the declared keys as it is. A
declared key can therefore be set exactly if it is its own lowercase.

* `Line.AcceptsKey`: an option line may have its key in this spelling, which is so for all names
  (`acceptsKey_iff`);
* `Section.LastWith`: a line of a section is the last one written with a key;
* `value?_of_lastWith`: what it says is what counts for the key in lowercase;
* `OptionSchema.Settable`: such a line sets the key wherever this is declared;
* `OptionSchema.NeverSet`: no line sets the key, which keeps its default;
* `settable_iff`: the keys that can be set, and what becomes of the others.
-/

import StoreTopology.Proofs.Option.Meaning
import StoreTopology.Proofs.Section.Values
import StoreTopology.Proofs.Text.LetterCase

namespace StoreTopology

open Text

variable {text key spelling : String} {forest : List Section} {block : Section}
  {option line : OptionLine}

/-! ### Spellings that option lines accept -/

namespace Line

/-- An option line accepts the spelling of its key. -/
def AcceptsKey (key : String) : Prop :=
  ∃ raw value, '\n' ∉ raw ∧ classify raw = .ok (.option key value)

/-- A key and a value of one letter, with a blank between them. -/
def keyText (key : String) : List Char := key.toList ++ [' '] ++ ['v']

theorem classify_keyText (isKey : isName key.toList = true) :
    classify (keyText key) = .ok (.option key ['v']) := by
  have blank : ∀ c ∈ [' '], isBlank c = true := List.forall_mem_singleton.mpr (by decide +kernel)
  have trimmed : Trimmed ['v'] := trim_eq_self_iff.mp (by decide +kernel)
  have parts := classify_keyAndValue isKey blank (List.cons_ne_nil _ _) trimmed
    (List.cons_ne_nil _ _)
  rw [String.ofList_toList] at parts
  exact parts

theorem lineFeed_notMem_keyText (isKey : isName key.toList = true) : '\n' ∉ keyText key := by
  have apart := lineFeed_notMem_name isKey
  simp [keyText, apart]

/-- The keys of option lines are the names. -/
theorem acceptsKey_iff : AcceptsKey key ↔ isName key.toList = true := by
  constructor
  · rintro ⟨raw, value, noLineFeed, classified⟩
    cases isFormed_of_classify noLineFeed classified with
    | option isKey _ _ => exact isKey
  · exact fun isKey => ⟨_, _, lineFeed_notMem_keyText isKey, classify_keyText isKey⟩

end Line

/-! ### Options and the spellings of their keys -/

/-- The option stands on a line of the text that has its key in this spelling. -/
def OptionLine.IsSpelled (option : OptionLine) (text spelling : String) : Prop :=
  ∃ index raw value, option.line = index + 1 ∧ (Text.lines text.toList)[index]? = some raw ∧
    Line.classify raw = .ok (.option spelling value)

/-- Options on the same line have their keys in the same spelling. -/
theorem OptionLine.IsSpelled.unique {other : String} (isSpelled : option.IsSpelled text spelling)
    (here : line.line = option.line) (isOther : line.IsSpelled text other) : other = spelling := by
  obtain ⟨index, raw, value, number, found, classified⟩ := isSpelled
  obtain ⟨index', raw', value', number', found', classified'⟩ := isOther
  cases Nat.succ.inj (number'.symm.trans (here.trans number))
  cases found'.symm.trans found
  cases classified'.symm.trans classified
  rfl

/-- The key of an option of a section, at whatever depth, is recorded in lowercase. -/
theorem exists_isSpelled (parsed : parse text = .ok forest) (occurs : Section.Occurs forest block)
    (present : option ∈ block.options) :
    ∃ spelling, option.IsSpelled text spelling ∧ option.key = lowercased spelling := by
  obtain ⟨said, settled, last, classified, settles, contents, _⟩ :=
    parseLines_eq_ok_iff_contents.mp parsed
  obtain ⟨index, key, own, found, rfl⟩ :=
    (allRecorded_of_contents contents).inside block occurs option present
  obtain ⟨value, isOption, _⟩ := exists_option_of_settled (settlesTo_of_settleAll settles).2 found
  have isSaid := congrArg (·[index]?) classified
  simp only [List.getElem?_map, isOption, Option.map_some] at isSaid
  obtain ⟨raw, isLine, isOk⟩ := Option.map_eq_some_iff.mp isSaid
  exact ⟨key, ⟨index, raw, value, Nat.add_comm 1 index, isLine, isOk⟩, rfl⟩

theorem key_of_isSpelled (parsed : parse text = .ok forest) (occurs : Section.Occurs forest block)
    (present : option ∈ block.options) (isSpelled : option.IsSpelled text spelling) :
    option.key = lowercased spelling := by
  obtain ⟨own, isOwn, isKey⟩ := exists_isSpelled parsed occurs present
  rw [isKey, isSpelled.unique rfl isOwn]

/-- No option is recorded under a key that is not its own lowercase. -/
theorem value?_eq_none (parsed : parse text = .ok forest) (occurs : Section.Occurs forest block)
    (notSmall : lowercased key ≠ key) : block.value? key = none := by
  by_contra given
  obtain ⟨raw, isValue⟩ := Option.ne_none_iff_exists'.mp given
  obtain ⟨earlier, option, later, split, isKey, _⟩ := Section.value?_eq_some_iff.mp isValue
  have present : option ∈ block.options := split ▸ by simp
  obtain ⟨spelling, _, recorded⟩ := exists_isSpelled parsed occurs present
  rw [← isKey, recorded, lowercased_lowercased] at notSmall
  exact notSmall rfl

/-- A line of a section is the last one that is written with a key, in whatever spelling. -/
structure Section.LastWith (text : String) (block : Section) (key : String) (line : OptionLine) :
    Prop where
  spelled : ∃ spelling, line.IsSpelled text spelling ∧ lowercased spelling = lowercased key
  last : ∃ earlier later, block.options = earlier ++ line :: later ∧ ∀ other ∈ later,
    ∀ spelling, other.IsSpelled text spelling → lowercased spelling ≠ lowercased key

theorem Section.LastWith.present (isLast : block.LastWith text key line) :
    line ∈ block.options := by
  obtain ⟨earlier, later, split, _⟩ := isLast.last
  simp [split]

theorem Section.LastWith.key_eq (isLast : block.LastWith text key line)
    (parsed : parse text = .ok forest) (occurs : Section.Occurs forest block) :
    line.key = lowercased key := by
  obtain ⟨spelling, isSpelled, same⟩ := isLast.spelled
  rw [key_of_isSpelled parsed occurs isLast.present isSpelled, same]

/-- The last line that is written with a key has the value that counts for the key in lowercase. -/
theorem value?_of_lastWith (parsed : parse text = .ok forest)
    (occurs : Section.Occurs forest block) (isLast : block.LastWith text key line) :
    block.value? (lowercased key) = some line.value := by
  obtain ⟨earlier, later, split, others⟩ := isLast.last
  refine Section.value?_eq_some_iff.mpr
    ⟨earlier, line, later, split, isLast.key_eq parsed occurs, rfl, fun other present => ?_⟩
  have inBlock : other ∈ block.options := split ▸ by simp [present]
  obtain ⟨spelling, isSpelled, isKey⟩ := exists_isSpelled parsed occurs inBlock
  rw [isKey]
  exact others other present spelling isSpelled

namespace OptionSchema

variable {schema : OptionSchema} {spec : OptionSpec}

/-! ### Keys that can be set -/

/-- Only an undeclared key of a line of the section is reported as unknown. -/
theorem exists_undeclared_of_coerce {recorded typeName : String} {number : Nat}
    (rejected : schema.coerce block = .error (.unknownKey recorded typeName number)) :
    ∃ option ∈ block.options, option.line = number ∧ schema.spec? option.key = none := by
  rcases coerce_eq_error_iff.mp rejected with isFirst | ⟨_, isFirst⟩
  · obtain ⟨earlier, option, later, split, fault⟩ := isFirst.exists_fault
    cases fault with
    | unknownKey _ undeclared =>
      exact ⟨option, split ▸ by simp, rfl, spec?_eq_none_iff.mpr undeclared⟩
  · obtain ⟨_, _, _, _, fault⟩ := isFirst.exists_fault
    cases fault

/-- The key can be set. Wherever it is declared as a string, the last line that is written with it
gives it the value, and is not reported as having an unknown key. -/
def Settable (key : String) : Prop :=
  ∀ (schema : OptionSchema) (spec : OptionSpec), schema.spec? key = some spec →
    spec.coercion = .string → ∀ text forest block line, parse text = .ok forest →
      Section.Occurs forest block → block.LastWith text key line →
        (∀ options, schema.coerce block = .ok options →
          options.get? key = some (.string line.value)) ∧
        ∀ recorded typeName,
          schema.coerce block ≠ .error (.unknownKey recorded typeName line.line)

/-- The key is never set. Wherever it is declared it keeps its default, and a section with a line
for it is refused by a strict schema that does not declare the lowercase too. -/
def NeverSet (key : String) : Prop :=
  ∀ (schema : OptionSchema) (spec : OptionSpec), schema.spec? key = some spec →
    ∀ text forest block, parse text = .ok forest → Section.Occurs forest block →
      (∀ options, schema.coerce block = .ok options →
        options.get? key = spec.default.bind spec.coercion.read?) ∧
      ∀ line, block.LastWith text key line → schema.strict = true →
        schema.spec? (lowercased key) = none → ∃ problem, schema.coerce block = .error problem

theorem settable_of_lowercase (small : lowercased key = key) : Settable key := by
  intro schema spec declared isString text forest block line parsed occurs isLast
  have isKey := isLast.key_eq parsed occurs
  have isValue := value?_of_lastWith parsed occurs isLast
  rw [small] at isKey isValue
  refine ⟨fun options coerced => ?_, fun recorded typeName rejected => ?_⟩
  · rw [get?_of_settle declared coerced, isValue, isString]
    rfl
  · -- The line that is reported stands where the last one does, so that it has the same key.
    obtain ⟨option, present, here, unknown⟩ := exists_undeclared_of_coerce rejected
    obtain ⟨own, isOwn, ownKey⟩ := exists_isSpelled parsed occurs present
    have sameKey : option.key = line.key := by
      obtain ⟨spelling, isSpelled, isLineKey⟩ := exists_isSpelled parsed occurs isLast.present
      rw [ownKey, isLineKey, isSpelled.unique here isOwn]
    rw [sameKey, isKey, declared] at unknown
    cases unknown

theorem neverSet_of_notSmall (notSmall : lowercased key ≠ key) : NeverSet key := by
  intro schema spec declared text forest block parsed occurs
  refine ⟨fun options coerced => ?_, fun line isLast isStrict undeclared => ?_⟩
  · rw [get?_of_settle declared coerced, value?_eq_none parsed occurs notSmall, Option.none_or]
  · cases coerced : schema.coerce block with
    | error problem => exact ⟨problem, rfl⟩
    | ok options =>
      have accepts := exists_coerce_iff.mp ⟨options, coerced⟩
      obtain ⟨other, isDeclared, isKey⟩ := accepts.known isStrict line isLast.present
      rw [isLast.key_eq parsed occurs] at isKey
      exact absurd isKey (spec?_eq_none_iff.mp undeclared other isDeclared)

/-! ### A text with one option -/

/-- A section with one option, whose key is in this spelling. -/
def soleLines (key : String) : List (List Char) :=
  [Line.openText "s" none, Line.keyText key, Line.closeText "s"]

/-- The section that they give. -/
def soleSection (key : String) : Section := ⟨"s", none, [⟨lowercased key, "v", 2⟩], [], 1, 3⟩

theorem isOwnName_s : Line.IsOwnName "s" := ⟨by decide +kernel, by decide +kernel⟩

theorem lines_soleLines (isKey : Line.isName key.toList = true) :
    Text.lines (joined (soleLines key)) = soleLines key := by
  refine lines_joined fun raw present => ?_
  simp only [soleLines, List.mem_cons, List.not_mem_nil, or_false] at present
  rcases present with rfl | rfl | rfl
  · exact Line.isLine_openText isOwnName_s nofun
  · exact ⟨Line.lineFeed_notMem_keyText isKey, by simp [Line.keyText]⟩
  · exact Line.isLine_closeText isOwnName_s

theorem parse_soleLines (isKey : Line.isName key.toList = true) :
    parse (.ofList (joined (soleLines key))) = .ok [soleSection key] := by
  have noName : ∀ name ∈ (none : Option String), Line.IsOwnSectionName name := nofun
  have opening := ReadAs.single (Line.classify_openText isOwnName_s noName) fun _ => rfl
  have option : ReadAs [Line.keyText key] [.option key ['v']] :=
    ReadAs.single (Line.classify_keyText isKey) fun definitions =>
      settle_option_iff.mpr ⟨_, substitute_doubled definitions ['v'], rfl, rfl⟩
  have closing := ReadAs.single (Line.classify_closeText isOwnName_s) fun _ => rfl
  obtain ⟨said, classified, settles⟩ := ReadAs.cons opening (.cons option closing)
  have contents : Contents 1 _ [] [soleSection key] :=
    .block (.option (.nil 3)) List.nodup_nil (.nil 4)
  rw [parse, String.toList_ofList, lines_soleLines isKey]
  exact parseLines_eq_ok_iff_contents.mpr
    ⟨said, _, .empty, classified, settles .empty, contents, List.nodup_nil⟩

/-- The option of the section is the last one that is written with its key. -/
theorem lastWith_soleSection (isKey : Line.isName key.toList = true) :
    (soleSection key).LastWith (.ofList (joined (soleLines key))) key ⟨lowercased key, "v", 2⟩ where
  spelled := by
    refine ⟨key, ⟨1, Line.keyText key, ['v'], rfl, ?_, Line.classify_keyText isKey⟩, rfl⟩
    rw [String.toList_ofList, lines_soleLines isKey]
    rfl
  last := ⟨[], [], rfl, List.forall_mem_nil _⟩

/-- A strict schema that declares the key alone. -/
def soleSchema (strict : Bool) (key : String) : OptionSchema := (new strict).optional key .string

theorem spec?_soleSchema (strict : Bool) :
    (soleSchema strict key).spec? key = some ⟨key, .string, none, false⟩ :=
  spec?_eq_some_iff.mpr ⟨List.mem_cons_self, rfl⟩

/-- A lenient schema that declares a string alone accepts every section. -/
theorem exists_coerce_soleSchema (block : Section) :
    ∃ options, (soleSchema false key).coerce block = .ok options := by
  refine exists_coerce_iff.mpr ⟨nofun, ?_, ?_, ?_⟩
  · exact List.forall_mem_singleton.mpr fun raw _ => ⟨.string raw, rfl⟩
  · exact List.forall_mem_singleton.mpr fun _ _ isDefault => nomatch isDefault
  · exact List.forall_mem_singleton.mpr fun _ _ => rfl

/-- A strict schema that declares the key alone refuses the option, unless the key is its own
lowercase. -/
theorem coerce_soleSchema (notSmall : lowercased key ≠ key) :
    (soleSchema true key).coerce (soleSection key) =
      .error (.unknownKey (lowercased key) "s" 2) :=
  coerce_eq_error_iff.mpr (.inl (.here (.unknownKey rfl
    (List.forall_mem_singleton.mpr (Ne.symm notSmall)))))

/-- **Which declared keys can be set.** Of the keys that option lines accept, those that are their
own lowercase can be set, in whatever spelling, and the others are never set. -/
theorem settable_iff (accepted : Line.AcceptsKey key) :
    (Settable key ↔ lowercased key = key) ∧ (NeverSet key ↔ lowercased key ≠ key) := by
  have isKey := Line.acceptsKey_iff.mp accepted
  have parsed := parse_soleLines isKey
  have occurs : Section.Occurs [soleSection key] (soleSection key) := .top List.mem_cons_self
  have isLast := lastWith_soleSection isKey
  refine ⟨⟨fun settable => ?_, settable_of_lowercase⟩,
    ⟨fun neverSet small => ?_, neverSet_of_notSmall⟩⟩
  · by_contra notSmall
    have law := settable _ _ (spec?_soleSchema true) rfl _ _ _ _ parsed occurs isLast
    exact law.2 _ _ (coerce_soleSchema notSmall)
  · -- The line gives the key a value, where it is declared without a default.
    obtain ⟨options, coerced⟩ := exists_coerce_soleSchema (soleSection key)
    have law := settable_of_lowercase small _ _ (spec?_soleSchema false) rfl _ _ _ _ parsed occurs
      isLast
    have value := law.1 options coerced
    rw [(neverSet _ _ (spec?_soleSchema false) _ _ _ parsed occurs).1 options coerced] at value
    cases value

/-- A section whose only option is spelled in capitals. -/
def capitalText : String := "<s>\n  LABEL v\n</s>\n"

/-- The option sets the key in lowercase, where a strict schema declares this. -/
theorem settable_iff_label :
    Line.AcceptsKey "label" ∧ parse capitalText = .ok [soleSection "LABEL"] ∧
      ∃ options, (soleSchema true "label").coerce (soleSection "LABEL") = .ok options ∧
        options.get? "label" = some (.string "v") := by
  have accepted : Line.AcceptsKey "label" := Line.acceptsKey_iff.mpr (by decide +kernel)
  have small : lowercased "label" = "label" := by decide +kernel
  have parsed : parse capitalText = .ok [soleSection "LABEL"] :=
    toOption_eq_some_iff.mp (by decide +kernel)
  have isLast : (soleSection "LABEL").LastWith capitalText "label"
      ⟨lowercased "LABEL", "v", 2⟩ := by
    refine ⟨⟨"LABEL", ⟨1, "  LABEL v".toList, ['v'], rfl, by decide +kernel, ?_⟩, ?_⟩,
      [], [], rfl, List.forall_mem_nil _⟩
    · exact toOption_eq_some_iff.mp (by decide +kernel)
    · decide +kernel
  have coerced : (soleSchema true "label").coerce (soleSection "LABEL") =
      .ok (SortedMap.empty.insert "label" (.string "v")) :=
    toOption_eq_some_iff.mp (by decide +kernel)
  have law := (settable_iff accepted).1.mpr small _ _ (spec?_soleSchema true) rfl _ _ _ _ parsed
    (.top List.mem_cons_self) isLast
  exact ⟨accepted, parsed, _, coerced, law.1 _ coerced⟩

/-- A section whose only option is spelled with one capital. -/
def titleText : String := "<s>\n  Label v\n</s>\n"

/-- The option does not set the key that is declared in this very spelling. It is unknown to a
strict schema, and a lenient one passes over it. -/
theorem not_settable_title :
    Line.AcceptsKey "Label" ∧ parse titleText = .ok [soleSection "Label"] ∧
      (soleSection "Label").LastWith titleText "Label" ⟨"label", "v", 2⟩ ∧
      (soleSchema true "Label").spec? "Label" = some ⟨"Label", .string, none, false⟩ ∧
      (soleSchema true "Label").coerce (soleSection "Label") =
        .error (.unknownKey "label" "s" 2) ∧
      (soleSchema false "Label").coerce (soleSection "Label") = .ok .empty ∧
      ¬ Settable "Label" := by
  have accepted : Line.AcceptsKey "Label" := Line.acceptsKey_iff.mpr (by decide +kernel)
  have notSmall : lowercased "Label" ≠ "Label" := by decide +kernel
  have isLowercase : lowercased "Label" = "label" := by decide +kernel
  have parsed : parse titleText = .ok [soleSection "Label"] :=
    toOption_eq_some_iff.mp (by decide +kernel)
  have isLast : (soleSection "Label").LastWith titleText "Label" ⟨"label", "v", 2⟩ := by
    refine ⟨⟨"Label", ⟨1, "  Label v".toList, ['v'], rfl, by decide +kernel, ?_⟩, rfl⟩,
      [], [], ?_, List.forall_mem_nil _⟩
    · exact toOption_eq_some_iff.mp (by decide +kernel)
    · rw [soleSection, isLowercase]
      rfl
  have rejected := coerce_soleSchema notSmall
  rw [isLowercase] at rejected
  refine ⟨accepted, parsed, isLast, spec?_soleSchema true, rejected,
    toOption_eq_some_iff.mp (by decide +kernel), fun settable => ?_⟩
  have law := settable _ _ (spec?_soleSchema true) rfl _ _ _ _ parsed (.top List.mem_cons_self)
    isLast
  exact law.2 _ _ rejected

end OptionSchema

end StoreTopology

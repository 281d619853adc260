/-
**What the lines of a text say is in form.**

* `Text.noLineFeed_of_mem_lines`: no line of a text holds a line feed;
* `Line.IsOwnDefined`: a name that can be defined, in lowercase;
* `Line.IsFormed`: types and names in a line can be written and are in lowercase, and its value is
  trimmed;
* `Line.isFormed_of_classify`: so it is for what a line without a line feed says.
-/

import StoreTopology.Proofs.Section.LineCase
import StoreTopology.Proofs.Section.LowercaseNames

namespace StoreTopology

namespace Text

theorem mem_of_mem_trim {text : List Char} {c : Char} (present : c ∈ trim text) : c ∈ text := by
  have inStart := (List.dropWhile_sublist isBlank).mem (List.mem_reverse.mp present)
  exact (List.dropWhile_sublist isBlank).mem (List.mem_reverse.mp inStart)

/-- No line of a text holds a line feed. -/
theorem noLineFeed_of_mem_lines {text : List Char} : ∀ raw ∈ lines text, '\n' ∉ raw := by
  induction text using lines_induction with
  | nil =>
    rw [lines]
    exact List.forall_mem_nil _
  | lineFeed rest ih =>
    rw [lines_lineFeed]
    exact List.forall_mem_cons.mpr ⟨List.not_mem_nil, ih⟩
  | carriageReturn rest ih =>
    rw [lines_return]
    exact List.forall_mem_cons.mpr ⟨List.not_mem_nil, ih⟩
  | character c rest notFeed notReturn ih =>
    rw [lines_cons notFeed notReturn]
    cases split : lines rest with
    | nil => simpa [consFirst] using Ne.symm notFeed
    | cons line later =>
      rw [split] at ih
      obtain ⟨first, others⟩ := List.forall_mem_cons.mp ih
      refine List.forall_mem_cons.mpr ⟨fun present => ?_, others⟩
      exact (List.mem_cons.mp present).elim (Ne.symm notFeed) first

end Text

open Text

namespace Line

/-- A value has no blanks at its ends, and stands on one line. It may be empty. -/
structure IsValue (value : List Char) : Prop where
  trimmed : Trimmed value
  noLineFeed : '\n' ∉ value

theorem isValue_trim {text : List Char} (noLineFeed : '\n' ∉ text) : IsValue (trim text) :=
  ⟨trim_trimmed text, fun present => noLineFeed (mem_of_mem_trim present)⟩

/-- A defined name is one that can be defined, in lowercase. -/
structure IsOwnDefined (name : String) : Prop where
  isDefinable : IsDefinable name.toList
  isLower : lowercased name = name

/-- A text that can be defined can be in lowercase. -/
theorem isOwnDefined_lowercased {name : String} (definable : IsDefinable name.toList) :
    IsOwnDefined (lowercased name) where
  isDefinable := by
    obtain ⟨c, rest, spelled, begins, goesOn⟩ := definable
    rw [toList_lowercased, spelled, lowercase_cons begins]
    exact ⟨_, _, rfl, isDefinableStart_lowerChar begins,
      forall_mem_lowerAfter isWordChar (fun _ => isWordChar_lowerChar)
        (List.all_eq_true.mp (by decide)) goesOn [c]⟩
  isLower := lowercased_lowercased name

/-- The types and names of a line can be written and are in lowercase, and its value is one. The key
of an option is as it is written. -/
inductive IsFormed : Line → Prop
  | blank : IsFormed .blank
  | definition {name : String} {value : List Char} (isDefined : IsOwnDefined name)
      (isValue : IsValue value) : IsFormed (.definition name value)
  | openTag {typeName : String} {name : Option String} (isType : IsOwnName typeName)
      (isSectionName : ∀ text ∈ name, IsOwnSectionName text) : IsFormed (.openTag typeName name)
  | emptyTag {typeName : String} {name : Option String} (isType : IsOwnName typeName)
      (isSectionName : ∀ text ∈ name, IsOwnSectionName text) : IsFormed (.emptyTag typeName name)
  | closeTag {typeName : String} (isType : IsOwnName typeName) : IsFormed (.closeTag typeName)
  | option {key : String} {value : List Char} (isKey : isName key.toList = true)
      (isValue : IsValue value) (notEmpty : value ≠ []) : IsFormed (.option key value)

variable {text rest typeName raw : List Char} {name : Option (List Char)} {line : Line}

theorem isName_of_splitName (split : splitName text = some (typeName, rest)) :
    isName typeName = true := by
  unfold splitName at split
  split at split
  · cases split
  · split at split
    · next begins =>
      cases split
      exact isName_iff.mpr ⟨_, _, rfl, begins, List.all_eq_true.mp List.all_takeWhile⟩
    · cases split

theorem isFormed_of_tagEnding (isType : isName typeName = true)
    (isSectionName : ∀ text ∈ name, text ≠ [] ∧ ∀ c ∈ text, isSectionNameChar c = true)
    (ends : tagEnding typeName name rest = some line) : line.IsFormed := by
  have ownType : IsOwnName (lowercased (.ofList typeName)) :=
    isOwnName_lowercased (by rw [String.toList_ofList]; exact isType)
  have ownName : ∀ text ∈ name.map (lowercased <| .ofList ·), IsOwnSectionName text := by
    intro text present
    obtain ⟨own, isOwn, rfl⟩ := Option.map_eq_some_iff.mp present
    obtain ⟨notEmpty, characters⟩ := isSectionName own isOwn
    rw [← String.toList_ofList (l := own)] at notEmpty characters
    exact isOwnSectionName_lowercased notEmpty characters
  rw [tagEnding_eq] at ends
  split at ends
  · cases ends
    exact .openTag ownType ownName
  · split at ends
    · cases ends
      exact .emptyTag ownType ownName
    · cases ends

theorem isFormed_of_readOpenTag (read : readOpenTag text = some line) : line.IsFormed := by
  unfold readOpenTag at read
  rw [Option.bind_eq_bind] at read
  obtain ⟨⟨typeName, rest⟩, split, read⟩ := Option.bind_eq_some_iff.mp read
  have isType := isName_of_splitName split
  dsimp only at read
  split at read
  · next named =>
    rw [Bool.and_eq_true, Bool.not_eq_true', List.isEmpty_eq_false_iff] at named
    refine isFormed_of_tagEnding isType ?_ read
    rintro _ ⟨⟩
    exact ⟨named.2, List.all_eq_true.mp List.all_takeWhile⟩
  · refine isFormed_of_tagEnding isType ?_ read
    rintro _ ⟨⟩

theorem isFormed_of_readCloseTag (read : readCloseTag text = some line) : line.IsFormed := by
  unfold readCloseTag at read
  rw [Option.bind_eq_bind] at read
  obtain ⟨⟨typeName, rest⟩, split, read⟩ := Option.bind_eq_some_iff.mp read
  dsimp only at read
  split at read
  · cases read
    refine .closeTag (isOwnName_lowercased ?_)
    rw [String.toList_ofList]
    exact isName_of_splitName split
  · cases read

theorem isFormed_of_readDefinition (noLineFeed : '\n' ∉ text)
    (read : readDefinition text = some line) : line.IsFormed := by
  unfold readDefinition at read
  split at read
  · dsimp only at read
    split at read
    · cases read
    · next c more begins =>
      split at read
      · next conditions =>
        cases read
        rw [Bool.and_eq_true, Bool.and_eq_true] at conditions
        refine .definition (isOwnDefined_lowercased ?_)
          (isValue_trim fun present => noLineFeed ?_)
        · rw [String.toList_ofList]
          exact ⟨c, _, rfl, conditions.1.2, List.all_eq_true.mp List.all_takeWhile⟩
        have inMore : '\n' ∈ c :: more :=
          List.mem_cons_of_mem _ ((List.dropWhile_sublist isWordChar).mem present)
        rw [← begins] at inMore
        exact List.mem_of_mem_drop ((List.dropWhile_sublist isBlank).mem inMore)
      · cases read
  · cases read

theorem isFormed_of_readOption (noLineFeed : '\n' ∉ text) (read : readOption text = .ok line) :
    line.IsFormed := by
  unfold readOption at read
  dsimp only at read
  split at read
  · next isKey =>
    split at read
    · cases read
    · next notEmpty =>
      cases read
      rw [List.isEmpty_iff] at notEmpty
      refine .option (by rw [String.toList_ofList]; exact isKey) (isValue_trim fun present => ?_)
        notEmpty
      exact noLineFeed ((List.dropWhile_sublist _).mem present)
  · cases read

/-- What a line says is in form. -/
theorem isFormed_of_classify (noLineFeed : '\n' ∉ raw) (classified : classify raw = .ok line) :
    line.IsFormed := by
  have stays : '\n' ∉ trim raw := fun present => noLineFeed (mem_of_mem_trim present)
  unfold classify at classified
  dsimp only at classified
  split at classified
  · cases classified
    exact .blank
  · cases classified
    exact .blank
  · split at classified
    · next read =>
      cases classified
      exact isFormed_of_readDefinition stays read
    · cases classified
  · split at classified
    · next read =>
      cases classified
      exact isFormed_of_readCloseTag read
    · cases classified
  · split at classified
    · next read =>
      cases classified
      exact isFormed_of_readOpenTag read
    · cases classified
  · exact isFormed_of_readOption stays classified

end Line

end StoreTopology

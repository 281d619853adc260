/-
**The case of names in a line does not matter.**

* `Line.readTag_fold`: a tag says the same in whatever case it is written;
* `Line.classify_keyAndValue`, `Line.classify_wordAndName`: what options and definitions say, by the
  parts that they are written with;
* `RecasedLine`: two lines that differ in the case of ASCII letters in names only;
* `classify_of_recased`: if one of two such lines is well-formed then so is the other, and they say
  the same.
-/

import StoreTopology.Proofs.Section.ReferenceCase

namespace StoreTopology

open Text

/-! ### Names and tags -/

namespace Line

theorem isNameStart_toLower (c : Char) : isNameStart c.toLower = isNameStart c :=
  apply_toLower (by decide +kernel) c

theorem isNameChar_toLower (c : Char) : isNameChar c.toLower = isNameChar c :=
  apply_toLower (by decide +kernel) c

theorem isSectionNameChar_toLower (c : Char) : isSectionNameChar c.toLower = isSectionNameChar c :=
  apply_toLower (by decide +kernel) c

theorem isDefinableStart_toLower (c : Char) : isDefinableStart c.toLower = isDefinableStart c :=
  apply_toLower (by decide +kernel) c

theorem isName_of_sameButCase {key other : List Char} (recased : SameButCase key other)
    (isKey : isName key = true) : isName other = true := by
  obtain ⟨c, rest, rfl, begins, goesOn⟩ := isName_iff.mp isKey
  obtain ⟨d, later, rfl, alike, same⟩ := recased.exists_cons
  refine isName_iff.mpr ⟨d, later, rfl, ?_, same.forall_mem isNameChar_toLower goesOn⟩
  rw [← isNameStart_toLower, ← alike, isNameStart_toLower, begins]

/-- A name is split from a text in whatever case it is written. -/
theorem splitName_fold (text : List Char) :
    splitName (fold text) = (splitName text).map fun parts => (fold parts.1, fold parts.2) := by
  cases text with
  | nil => rfl
  | cons c rest =>
    show (if isNameStart c.toLower then some (c.toLower :: (fold rest).takeWhile isNameChar,
      (fold rest).dropWhile isNameChar) else none) = _
    rw [isNameStart_toLower, takeWhile_fold isNameChar_toLower, dropWhile_fold isNameChar_toLower,
      splitName]
    split
    · rfl
    · rfl

/-- A tag opens a section or is an empty one, by its ending. -/
theorem tagEnding_eq (typeName : List Char) (name : Option (List Char)) (ending : List Char) :
    tagEnding typeName name ending =
      if ending = ['>'] then
        some (openTag (lowercased (.ofList typeName)) (name.map (lowercased <| .ofList ·)))
      else if ending = ['/', '>'] then
        some (emptyTag (lowercased (.ofList typeName)) (name.map (lowercased <| .ofList ·)))
      else none := by
  unfold tagEnding
  split
  · rw [if_pos rfl]
  · rw [if_neg (by decide), if_pos rfl]
  · next notOpen notEmpty => rw [if_neg notOpen, if_neg notEmpty]

theorem tagEnding_fold (typeName : List Char) (name : Option (List Char)) (ending : List Char) :
    tagEnding (fold typeName) (name.map fold) (fold ending) = tagEnding typeName name ending := by
  have sameName : (name.map fold).map (lowercased <| .ofList ·) =
      name.map (lowercased <| .ofList ·) := by
    cases name with
    | none => rfl
    | some text => exact congrArg some (lowercased_fold text)
  have opens : fold ending = ['>'] ↔ ending = ['>'] :=
    fold_eq_iff (List.forall_mem_singleton.mpr rfl)
  have closes : fold ending = ['/', '>'] ↔ ending = ['/', '>'] :=
    fold_eq_iff (List.forall_mem_cons.mpr ⟨rfl, List.forall_mem_singleton.mpr rfl⟩)
  rw [tagEnding_eq, tagEnding_eq, lowercased_fold, sameName]
  simp only [opens, closes]

theorem readOpenTag_fold (text : List Char) : readOpenTag (fold text) = readOpenTag text := by
  unfold readOpenTag
  rw [trimStart_fold, splitName_fold]
  cases splitName (trimStart text) with
  | none => rfl
  | some parts =>
    obtain ⟨typeName, rest⟩ := parts
    simp only [Option.map_some, Option.bind_eq_bind, Option.bind_some, trimStart_fold,
      takeWhile_fold isSectionNameChar_toLower, dropWhile_fold isSectionNameChar_toLower,
      any_head?_fold isBlank_toLower, isEmpty_fold]
    split
    · exact tagEnding_fold typeName (some _) _
    · exact tagEnding_fold typeName none _

theorem readCloseTag_fold (text : List Char) : readCloseTag (fold text) = readCloseTag text := by
  unfold readCloseTag
  rw [trimStart_fold, splitName_fold]
  cases splitName (trimStart text) with
  | none => rfl
  | some parts =>
    obtain ⟨typeName, rest⟩ := parts
    have ends : fold (trimStart rest) = ['>'] ↔ trimStart rest = ['>'] :=
      fold_eq_iff (List.forall_mem_singleton.mpr rfl)
    simp only [Option.map_some, Option.bind_eq_bind, Option.bind_some, trimStart_fold,
      lowercased_fold, ends]

/-- The tag of a text after its opening bracket, be it an opening or a closing one. -/
def readTag : List Char → Option Line
  | '/' :: rest => readCloseTag rest
  | text => readOpenTag text

theorem readTag_of_ne {text : List Char} (noSlash : ∀ c ∈ text.head?, c ≠ '/') :
    readTag text = readOpenTag text := by
  unfold readTag
  split
  · exact absurd rfl (noSlash _ rfl)
  · rfl

/-- What a tag says does not depend on the case of its letters. -/
theorem readTag_fold (text : List Char) : readTag (fold text) = readTag text := by
  by_cases closes : text.head? = some '/'
  · obtain ⟨rest, rfl⟩ := List.head?_eq_some_iff.mp closes
    exact readCloseTag_fold rest
  · have noSlash : ∀ c ∈ text.head?, c ≠ '/' := fun c first same => closes (same ▸ first)
    have noSlashFold : ∀ c ∈ (fold text).head?, c ≠ '/' := by
      cases text with
      | nil => exact fun c absent => nomatch absent
      | cons own rest =>
        rintro _ ⟨⟩ same
        exact noSlash own rfl ((toLower_eq_iff (by decide) own).mp same)
    rw [readTag_of_ne noSlash, readTag_of_ne noSlashFold, readOpenTag_fold]

/-- A line that begins with a bracket is a tag. -/
theorem classify_bracket_iff {text : List Char} (trimmed : Trimmed ('<' :: text)) {line : Line} :
    classify ('<' :: text) = .ok line ↔ readTag text = some line := by
  unfold classify
  rw [trim_of_trimmed trimmed]
  by_cases closes : text.head? = some '/'
  · obtain ⟨rest, rfl⟩ := List.head?_eq_some_iff.mp closes
    show _ ↔ readCloseTag rest = some line
    dsimp only
    cases ran : readCloseTag rest <;> simp [ran]
  · have noSlash : ∀ c ∈ text.head?, c ≠ '/' := fun c first same => closes (same ▸ first)
    rw [readTag_of_ne noSlash]
    dsimp only
    split
    · next same => cases same
    · next same => cases same
    · next same => cases same
    · next same =>
      cases same
      exact absurd rfl closes
    · next same =>
      cases same
      cases readOpenTag text <;> simp
    · next notOpening => exact absurd rfl (notOpening text)

/-! ### Options and definitions -/

/-- The name of a definition: one that may begin there, and word characters. -/
def IsDefinable (name : List Char) : Prop :=
  ∃ c rest, name = c :: rest ∧ isDefinableStart c = true ∧ ∀ other ∈ rest, isWordChar other = true

theorem IsDefinable.of_sameButCase {name other : List Char} (recased : SameButCase name other)
    (definable : IsDefinable name) : IsDefinable other := by
  obtain ⟨c, rest, rfl, begins, goesOn⟩ := definable
  obtain ⟨d, later, rfl, alike, same⟩ := recased.exists_cons
  refine ⟨d, later, rfl, ?_, same.forall_mem isWordChar_toLower goesOn⟩
  rw [← isDefinableStart_toLower, ← alike, isDefinableStart_toLower, begins]

variable {gap between key value word name : List Char}

/-- Something blank comes first in what follows a gap. -/
theorem head?_gap (blank : ∀ c ∈ gap, isBlank c = true) (apart : gap ≠ []) (rest : List Char) :
    ∀ c ∈ (gap ++ rest).head?, isBlank c = true :=
  head?_append_of_ne_nil apart fun c first => blank c (List.mem_of_mem_head? first)

theorem any_head? {p : Char → Bool} {text : List Char} (notEmpty : text ≠ [])
    (passes : ∀ c ∈ text.head?, p c = true) : text.head?.any p = true := by
  cases text with
  | nil => exact absurd rfl notEmpty
  | cons c rest => exact passes c rfl

theorem trimmed_append {text rest : List Char} (notEmpty : text ≠ [])
    (starts : ∀ c ∈ text.head?, isBlank c = false) (restNotEmpty : rest ≠ [])
    (ends : ∀ c ∈ rest.getLast?, isBlank c = false) : Trimmed (text ++ rest) := by
  refine ⟨head?_append_of_ne_nil notEmpty starts, ?_⟩
  rw [List.getLast?_append_of_ne_nil text restNotEmpty]
  exact ends

/-- The parts of an option line, in the order in which they stand. -/
theorem classify_keyAndValue (isKey : isName key = true) (blank : ∀ c ∈ gap, isBlank c = true)
    (apart : gap ≠ []) (trimmed : Trimmed value) (notEmpty : value ≠ []) :
    classify (key ++ gap ++ value) = .ok (.option (.ofList key) value) := by
  obtain ⟨c, rest, rfl, begins, goesOn⟩ := isName_iff.mp isKey
  have noBlank : ∀ other ∈ c :: rest, (!isBlank other) = true := by
    refine List.forall_mem_cons.mpr ⟨?_, fun other present => ?_⟩
    · rw [isBlank_of_isNameStart begins, Bool.not_false]
    · rw [isBlank_of_isNameChar (goesOn other present), Bool.not_false]
  have stop : ∀ other ∈ (gap ++ value).head?, (!isBlank other) = false := fun other first => by
    rw [head?_gap blank apart value other first, Bool.not_true]
  have parts := takeWhile_append_of_stop noBlank stop
  have whole : Trimmed (c :: rest ++ (gap ++ value)) := by
    rw [← List.append_assoc]
    refine trimmed_append (List.cons_ne_nil _ _) ?_ notEmpty trimmed.2
    rintro _ ⟨⟩
    exact isBlank_of_isNameStart begins
  have surrounds : Surrounds value (gap ++ value) :=
    ⟨gap, [], blank, List.forall_mem_nil _, (List.append_nil _).symm⟩
  rw [List.append_assoc]
  rw [List.cons_append] at parts whole ⊢
  rw [classify_eq_readOption whole begins, readOption, parts.1, parts.2, surrounds.trim_eq,
    trim_of_trimmed trimmed]
  rw [if_pos isKey, if_neg (by simpa using notEmpty)]

theorem isBlank_of_isDefinableStart {c : Char} (begins : isDefinableStart c = true) :
    isBlank c = false := by
  unfold isDefinableStart at begins
  simp only [Bool.or_eq_true, decide_eq_true_eq] at begins
  rcases begins with (begins | rfl) | rfl
  · exact isBlank_of_isNameStart begins
  · decide
  · decide

theorem IsDefinable.ne_nil (definable : IsDefinable name) : name ≠ [] := by
  obtain ⟨c, rest, rfl, _⟩ := definable
  exact List.cons_ne_nil c rest

theorem IsDefinable.isBlank_of_mem (definable : IsDefinable name) {c : Char} (present : c ∈ name) :
    isBlank c = false := by
  obtain ⟨first, rest, rfl, begins, goesOn⟩ := definable
  rcases List.mem_cons.mp present with rfl | later
  · exact isBlank_of_isDefinableStart begins
  · exact isBlank_of_isWordChar (goesOn c later)

/-- The value of a definition is apart from the name, or there is none. -/
theorem head?_value (blankBetween : ∀ c ∈ between, isBlank c = true)
    (ends : between = [] ↔ value = []) : ∀ c ∈ (between ++ value).head?, isBlank c = true := by
  by_cases none : value = []
  · rw [ends.mpr none, none]
    exact fun c absent => nomatch absent
  · exact head?_gap blankBetween (mt ends.mp none) value

/-- A definition is read from what follows the word that begins it. -/
theorem readDefinition_word (isDefine : fold word = ['d', 'e', 'f', 'i', 'n', 'e'])
    (rest : List Char) :
    readDefinition ('%' :: word ++ rest) =
      match trimStart rest with
      | [] => none
      | c :: more =>
        if rest.head?.any isBlank && isDefinableStart c &&
            ((more.dropWhile isWordChar).isEmpty ||
              (more.dropWhile isWordChar).head?.any isBlank) then
          some (.definition (lowercased (.ofList (c :: more.takeWhile isWordChar)))
            (trim (more.dropWhile isWordChar)))
        else none := by
  have length : ('%' :: word).length = 7 := by
    have same := congrArg List.length isDefine
    rw [fold, List.length_map] at same
    rw [List.length_cons, same]
    rfl
  have isWord : ('%' :: word).map Char.toLower = ['%', 'd', 'e', 'f', 'i', 'n', 'e'] :=
    congrArg (List.cons '%') isDefine
  unfold readDefinition
  rw [List.take_left' length, List.drop_left' length]
  exact if_pos isWord

theorem trimStart_gap (blank : ∀ c ∈ gap, isBlank c = true) {text : List Char}
    (starts : ∀ c ∈ text.head?, isBlank c = false) : trimStart (gap ++ text) = text := by
  rw [trimStart, List.dropWhile_append_of_pos blank]
  exact dropWhile_eq_self starts

theorem readDefinition_wordAndName (isDefine : fold word = ['d', 'e', 'f', 'i', 'n', 'e'])
    (blank : ∀ c ∈ gap, isBlank c = true) (apart : gap ≠ []) (definable : IsDefinable name)
    (blankBetween : ∀ c ∈ between, isBlank c = true) (ends : between = [] ↔ value = [])
    (trimmed : Trimmed value) :
    readDefinition ('%' :: word ++ (gap ++ (name ++ (between ++ value)))) =
      some (.definition (lowercased (.ofList name)) value) := by
  obtain ⟨c, rest, rfl, begins, goesOn⟩ := definable
  have start : trimStart (gap ++ (c :: rest ++ (between ++ value))) =
      c :: (rest ++ (between ++ value)) := by
    refine trimStart_gap blank ?_
    rintro _ ⟨⟩
    exact isBlank_of_isDefinableStart begins
  have blankFirst := head?_value blankBetween ends
  have stop : ∀ d ∈ (between ++ value).head?, isWordChar d = false := by
    intro d first
    by_contra isWordToo
    rw [Bool.not_eq_false] at isWordToo
    exact absurd (blankFirst d first) (by rw [isBlank_of_isWordChar isWordToo]; decide)
  have parts := takeWhile_append_of_stop goesOn stop
  have surrounds : Surrounds value (between ++ value) :=
    ⟨between, [], blankBetween, List.forall_mem_nil _, (List.append_nil _).symm⟩
  have blankAfterWord : (gap ++ (c :: rest ++ (between ++ value))).head?.any isBlank = true :=
    any_head? (List.append_ne_nil_of_left_ne_nil apart _) (head?_gap blank apart _)
  have blankAfterName : ((between ++ value).isEmpty ||
      (between ++ value).head?.any isBlank) = true := by
    by_cases none : between ++ value = []
    · rw [none]
      rfl
    · rw [any_head? none blankFirst, Bool.or_true]
  rw [readDefinition_word isDefine, start]
  dsimp only
  rw [parts.1, parts.2, blankAfterWord, begins, blankAfterName, surrounds.trim_eq,
    trim_of_trimmed trimmed]
  rfl

/-- What begins with a percent sign is a definition or malformed. -/
theorem classify_percent {text : List Char} (trimmed : Trimmed ('%' :: text)) :
    classify ('%' :: text) =
      match readDefinition ('%' :: text) with
      | some line => .ok line
      | none => .error (.unknownDirective (.ofList ('%' :: text))) := by
  unfold classify
  rw [trim_of_trimmed trimmed]
  dsimp only
  split
  · next same => cases same
  · next same => cases same
  · rfl
  · next same => cases same
  · next same => cases same
  · next notPercent _ _ => exact absurd rfl (notPercent _)

/-- The parts of a definition, in the order in which they stand. -/
theorem classify_wordAndName (isDefine : fold word = ['d', 'e', 'f', 'i', 'n', 'e'])
    (blank : ∀ c ∈ gap, isBlank c = true) (apart : gap ≠ []) (definable : IsDefinable name)
    (blankBetween : ∀ c ∈ between, isBlank c = true) (ends : between = [] ↔ value = [])
    (trimmed : Trimmed value) :
    classify ('%' :: (word ++ gap ++ name ++ between ++ value)) =
      .ok (.definition (lowercased (.ofList name)) value) := by
  have read := readDefinition_wordAndName isDefine blank apart definable blankBetween ends trimmed
  have whole : Trimmed ('%' :: word ++ (gap ++ (name ++ (between ++ value)))) := by
    have notEmpty : name ++ (between ++ value) ≠ [] :=
      List.append_ne_nil_of_left_ne_nil definable.ne_nil _
    rw [← List.append_assoc]
    refine trimmed_append (List.cons_ne_nil _ _) ?_ notEmpty ?_
    · rintro _ ⟨⟩
      decide
    · by_cases none : value = []
      · rw [ends.mpr none, none, List.append_nil, List.append_nil]
        exact fun c last => definable.isBlank_of_mem (List.mem_of_mem_getLast? last)
      · rw [← List.append_assoc, List.getLast?_append_of_ne_nil _ none]
        exact trimmed.2
  simp only [List.append_assoc]
  rw [List.cons_append] at read whole
  rw [classify_percent whole, read]

end Line

/-! ### Lines -/

/-- The lines are the same but for the case of ASCII letters in types and names of sections, keys of
options, the word that begins a definition, names that are defined, and references to them. -/
inductive RecasedLine : List Char → List Char → Prop
  | same (raw : List Char) : RecasedLine raw raw
  /-- All letters of a tag belong to the type or the name of a section. -/
  | tag {text other : List Char} (recased : SameButCase text other) :
      RecasedLine ('<' :: text) ('<' :: other)
  | option {key otherKey gap value other : List Char} (isKey : Line.isName key = true)
      (recasedKey : SameButCase key otherKey) (blank : ∀ c ∈ gap, isBlank c = true)
      (apart : gap ≠ []) (trimmed : Trimmed value) (notEmpty : value ≠ [])
      (recased : RecasedValue value other) :
      RecasedLine (key ++ gap ++ value) (otherKey ++ gap ++ other)
  | definition {word otherWord gap name otherName between value other : List Char}
      (isDefine : fold word = ['d', 'e', 'f', 'i', 'n', 'e']) (recasedWord : SameButCase word otherWord)
      (blank : ∀ c ∈ gap, isBlank c = true) (apart : gap ≠ []) (definable : Line.IsDefinable name)
      (recasedName : SameButCase name otherName)
      (blankBetween : ∀ c ∈ between, isBlank c = true) (ends : between = [] ↔ value = [])
      (trimmed : Trimmed value) (recased : RecasedValue value other) :
      RecasedLine ('%' :: (word ++ gap ++ name ++ between ++ value))
        ('%' :: (otherWord ++ gap ++ otherName ++ between ++ other))
  /-- There may be blanks around. -/
  | indented {left right raw other : List Char} (blankLeft : ∀ c ∈ left, isBlank c = true)
      (blankRight : ∀ c ∈ right, isBlank c = true) (recased : RecasedLine raw other) :
      RecasedLine (left ++ raw ++ right) (left ++ other ++ right)

theorem RecasedLine.symm {raw other : List Char} (recased : RecasedLine raw other) :
    RecasedLine other raw := by
  induction recased with
  | same raw => exact .same raw
  | tag recased => exact .tag recased.symm
  | option isKey recasedKey blank apart trimmed notEmpty recased =>
    exact .option (Line.isName_of_sameButCase recasedKey isKey) recasedKey.symm blank apart
      (recased.sameButCase.trimmed trimmed)
      (mt recased.sameButCase.eq_nil_iff.mpr notEmpty) recased.symm
  | definition isDefine recasedWord blank apart definable recasedName blankBetween ends trimmed
      recased =>
    exact .definition (recasedWord ▸ isDefine) recasedWord.symm blank apart
      (definable.of_sameButCase recasedName) recasedName.symm blankBetween
      (ends.trans recased.sameButCase.eq_nil_iff) (recased.sameButCase.trimmed trimmed)
      recased.symm
  | indented blankLeft blankRight _ ih => exact .indented blankLeft blankRight ih

/-- The lines say the same but for the case of letters in the names that values refer to, and in keys
as messages show them. -/
inductive Line.Alike : Line → Line → Prop
  | same (line : Line) : Alike line line
  | option {key other : String} {value otherValue : List Char}
      (sameKey : lowercased key = lowercased other) (recased : RecasedValue value otherValue) :
      Alike (option key value) (option other otherValue)
  | definition {name : String} {value other : List Char} (recased : RecasedValue value other) :
      Alike (definition name value) (definition name other)

theorem exists_trim_bracket (text : List Char) : ∃ inner, trim ('<' :: text) = '<' :: inner := by
  refine List.head?_eq_some_iff.mp ?_
  rw [head?_trim, List.find?_cons_of_pos (by decide)]

/-- If one of two lines is well-formed that differ in the case of names only, then so is the other,
and they say the same. -/
theorem classify_of_recased {raw other : List Char} (recased : RecasedLine raw other) {line : Line}
    (classified : Line.classify raw = .ok line) :
    ∃ alike, Line.classify other = .ok alike ∧ line.Alike alike := by
  induction recased with
  | same raw => exact ⟨line, classified, .same line⟩
  | @tag text other recased =>
    obtain ⟨inner, isTrimmed⟩ := exists_trim_bracket text
    obtain ⟨otherInner, isOtherTrimmed⟩ := exists_trim_bracket other
    have whole : SameButCase ('<' :: text) ('<' :: other) := .append (.refl ['<']) recased
    have sameTrimmed := whole.trim
    rw [isTrimmed, isOtherTrimmed] at sameTrimmed
    have sameInner : fold inner = fold otherInner := (List.cons.inj sameTrimmed).2
    rw [← Line.classify_trim, isTrimmed,
      Line.classify_bracket_iff (isTrimmed ▸ trim_trimmed ('<' :: text)), ← Line.readTag_fold,
      sameInner, Line.readTag_fold] at classified
    refine ⟨line, ?_, .same line⟩
    rw [← Line.classify_trim, isOtherTrimmed,
      Line.classify_bracket_iff (isOtherTrimmed ▸ trim_trimmed ('<' :: other))]
    exact classified
  | option isKey recasedKey blank apart trimmed notEmpty recased =>
    have sameValue := recased.sameButCase
    rw [Line.classify_keyAndValue isKey blank apart trimmed notEmpty] at classified
    cases classified
    refine ⟨_, Line.classify_keyAndValue (Line.isName_of_sameButCase recasedKey isKey) blank apart
      (sameValue.trimmed trimmed) (mt sameValue.eq_nil_iff.mpr notEmpty), ?_⟩
    exact .option recasedKey.lowercased_eq recased
  | definition isDefine recasedWord blank apart definable recasedName blankBetween ends trimmed
      recased =>
    have sameValue := recased.sameButCase
    rw [Line.classify_wordAndName isDefine blank apart definable blankBetween ends trimmed] at classified
    cases classified
    refine ⟨_, Line.classify_wordAndName (recasedWord ▸ isDefine) blank apart
      (definable.of_sameButCase recasedName) blankBetween (ends.trans sameValue.eq_nil_iff)
      (sameValue.trimmed trimmed), ?_⟩
    rw [recasedName.lowercased_eq]
    exact .definition recased
  | indented blankLeft blankRight _ ih =>
    have trims : ∀ inner, Line.classify (_ ++ inner ++ _) = Line.classify inner := fun inner => by
      have surrounds : Surrounds inner (_ ++ inner ++ _) := ⟨_, _, blankLeft, blankRight, rfl⟩
      rw [← Line.classify_trim, surrounds.trim_eq, Line.classify_trim]
    rw [trims] at classified ⊢
    exact ih classified

end StoreTopology

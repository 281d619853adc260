/-
**Lines as they are written.**

Tags and options are written without more blanks than needed, and with their names in lowercase.
Each of these lines is read as what it was written for, whatever characters the names and values
have.

* `classify_openText`, `classify_emptyText`, `classify_closeText`: tags;
* `classify_optionText`: options.
-/

import StoreTopology.Proofs.Section.References
import StoreTopology.Proofs.Text.Lines
import StoreTopology.Section.Line

namespace StoreTopology

open Text

namespace Line

/-! ### Characters -/

theorem isWordChar_of_mem {c : Char} {first last : Nat} (range : (first, last) ∈ wordRanges.ranges)
    (below : first ≤ c.toNat) (above : c.toNat ≤ last) : isWordChar c = true :=
  CodeRanges.contains_iff.mpr ⟨(first, last), range, below, above⟩

theorem isWordChar_of_isNameStart {c : Char} (begins : isNameStart c = true) :
    isWordChar c = true := by
  have capitals : (0x41, 0x5A) ∈ wordRanges.ranges := by decide
  have smalls : (0x61, 0x7A) ∈ wordRanges.ranges := by decide
  unfold isNameStart Char.isAlpha Char.isUpper Char.isLower at begins
  simp only [Bool.or_eq_true, Bool.and_eq_true, decide_eq_true_eq] at begins
  rcases begins with (⟨below, above⟩ | ⟨below, above⟩) | rfl
  · exact isWordChar_of_mem capitals below above
  · exact isWordChar_of_mem smalls below above
  · decide +kernel

theorem isBlank_of_isNameStart {c : Char} (begins : isNameStart c = true) : isBlank c = false :=
  isBlank_of_isWordChar (isWordChar_of_isNameStart begins)

/-- No other line begins like a name. -/
theorem isNameStart_ne {c : Char} (begins : isNameStart c = true) :
    c ≠ '#' ∧ c ≠ '%' ∧ c ≠ '<' ∧ c ≠ '/' := by
  refine ⟨?_, ?_, ?_, ?_⟩
  all_goals
    rintro rfl
    exact absurd begins (by decide)

theorem isBlank_of_isNameChar {c : Char} (isChar : isNameChar c = true) : isBlank c = false := by
  unfold isNameChar at isChar
  rw [Bool.or_eq_true, Bool.or_eq_true, decide_eq_true_eq, decide_eq_true_eq] at isChar
  rcases isChar with (isWord | rfl) | rfl
  · exact isBlank_of_isWordChar isWord
  · decide
  · decide

theorem isBlank_of_isSectionNameChar {c : Char} (isChar : isSectionNameChar c = true) :
    isBlank c = false := by
  unfold isSectionNameChar at isChar
  simp only [Bool.and_eq_true, Bool.not_eq_true'] at isChar
  exact isChar.1.1

/-! ### Blanks -/

theorem trimStart_space {text : List Char} (stop : ∀ c ∈ text.head?, isBlank c = false) :
    trimStart (' ' :: text) = text := by
  have isSpace : isBlank ' ' = true := by decide
  unfold trimStart
  rw [List.dropWhile_cons, if_pos isSpace]
  exact dropWhile_eq_self stop

theorem head?_append_of_ne_nil {text rest : List Char} {P : Char → Prop} (notEmpty : text ≠ [])
    (first : ∀ c ∈ text.head?, P c) : ∀ c ∈ (text ++ rest).head?, P c := by
  cases text with
  | nil => exact absurd rfl notEmpty
  | cons c others => exact first

/-! ### Names -/

/-- A name is a first character and further ones. -/
theorem isName_iff {text : List Char} :
    isName text = true ↔ ∃ c rest, text = c :: rest ∧ isNameStart c = true ∧
      ∀ other ∈ rest, isNameChar other = true := by
  unfold isName splitName
  cases text with
  | nil => simp
  | cons c rest =>
    by_cases begins : isNameStart c = true
    · simp only [begins, if_true, decide_eq_true_eq, Option.some.injEq, Prod.mk.injEq,
        List.cons.injEq, true_and]
      constructor
      · rintro ⟨taken, _⟩
        exact ⟨c, rest, ⟨rfl, rfl⟩, begins, taken ▸ List.all_eq_true.mp List.all_takeWhile⟩
      · rintro ⟨_, _, ⟨rfl, rfl⟩, _, goesOn⟩
        have none : ∀ c ∈ ([] : List Char).head?, isNameChar c = false := fun _ none => nomatch none
        have apart := takeWhile_append_of_stop goesOn none
        rw [List.append_nil] at apart
        exact apart
    · simp only [begins, if_false, reduceCtorEq, decide_false, Bool.false_eq_true, false_iff]
      rintro ⟨_, _, same, isStart, _⟩
      cases same
      exact begins isStart

/-- A name is split from what follows it, if that goes on with no character of names. -/
theorem splitName_append {name rest : List Char} (isName : isName name = true)
    (ends : ∀ c ∈ rest.head?, isNameChar c = false) :
    splitName (name ++ rest) = some (name, rest) := by
  obtain ⟨c, others, rfl, begins, goesOn⟩ := isName_iff.mp isName
  have apart := takeWhile_append_of_stop goesOn ends
  rw [List.cons_append, splitName, if_pos begins, apart.1, apart.2]

theorem trimStart_name {name rest : List Char} (isName : isName name = true) :
    trimStart (name ++ rest) = name ++ rest := by
  obtain ⟨c, others, rfl, begins, _⟩ := isName_iff.mp isName
  refine dropWhile_eq_self fun first isFirst => ?_
  cases isFirst
  exact isBlank_of_isNameStart begins

/-! ### Tags -/

/-- What is written between the brackets of a tag. -/
def headingText (typeName : String) : Option String → List Char
  | none => typeName.toList
  | some name => typeName.toList ++ ' ' :: name.toList

def openText (typeName : String) (name : Option String) : List Char :=
  '<' :: (headingText typeName name ++ ['>'])

def emptyText (typeName : String) (name : Option String) : List Char :=
  '<' :: (headingText typeName name ++ ['/', '>'])

def closeText (typeName : String) : List Char := '<' :: '/' :: (typeName.toList ++ ['>'])

/-- A type or key is a name in lowercase. -/
structure IsOwnName (text : String) : Prop where
  isName : isName text.toList = true
  isLower : lowercased text = text

/-- A section name has no blanks, slashes or closing brackets, and is in lowercase. -/
structure IsOwnSectionName (text : String) : Prop where
  notEmpty : text.toList ≠ []
  isLower : lowercased text = text
  characters : ∀ c ∈ text.toList, isSectionNameChar c = true

variable {typeName : String} {name : Option String}

/-- The tag that is read from a type and a name with an ending. -/
theorem readOpenTag_headingText (isType : isName typeName.toList = true)
    (isSectionName : ∀ text ∈ name, IsOwnSectionName text) {ending : List Char}
    (isEnding : ending = ['>'] ∨ ending = ['/', '>']) :
    readOpenTag (headingText typeName name ++ ending) =
      tagEnding typeName.toList (name.map String.toList) ending := by
  have stop : ∀ c ∈ ending.head?, isNameChar c = false ∧ isSectionNameChar c = false ∧
      isBlank c = false := by
    rcases isEnding with rfl | rfl
    · rintro _ ⟨⟩
      decide +kernel
    · rintro _ ⟨⟩
      decide +kernel
  have keeps : trimStart ending = ending :=
    dropWhile_eq_self fun c first => (stop c first).2.2
  unfold readOpenTag
  cases name with
  | none =>
    have noName : ending.takeWhile isSectionNameChar = [] := by
      rcases isEnding with rfl | rfl
      · rfl
      · rfl
    show (splitName (trimStart (typeName.toList ++ ending)) >>= _) = _
    rw [trimStart_name isType,
      splitName_append isType fun c first => (stop c first).1, Option.bind_eq_bind,
      Option.bind_some]
    simp only [keeps, noName, List.isEmpty_nil, Bool.not_true, Bool.and_false, Bool.false_eq_true,
      if_false, Option.map_none]
  | some text =>
    obtain ⟨notEmpty, _, characters⟩ := isSectionName text rfl
    have blankStops : ∀ c ∈ (' ' :: (text.toList ++ ending)).head?, isNameChar c = false := by
      rintro _ ⟨⟩
      decide +kernel
    have apart := takeWhile_append_of_stop characters fun c first => (stop c first).2.1
    have trimmed : trimStart (' ' :: (text.toList ++ ending)) = text.toList ++ ending :=
      trimStart_space (head?_append_of_ne_nil notEmpty fun c first =>
        isBlank_of_isSectionNameChar (characters c (List.mem_of_mem_head? first)))
    show (splitName (trimStart (typeName.toList ++ ' ' :: text.toList ++ ending)) >>= _) = _
    rw [List.append_assoc, List.cons_append, trimStart_name isType,
      splitName_append isType blankStops, Option.bind_eq_bind, Option.bind_some]
    simp only [trimmed, apart.1, apart.2, keeps]
    have present : text.toList.isEmpty = false := List.isEmpty_eq_false_iff.mpr notEmpty
    have isSpace : isBlank ' ' = true := by decide
    simp only [List.head?_cons, Option.any_some, isSpace, present, Bool.not_false, Bool.and_self,
      if_true, Option.map_some]

theorem trimmed_bracketed (inside : List Char) : Trimmed ('<' :: (inside ++ ['>'])) := by
  refine ⟨?_, ?_⟩
  · rintro _ ⟨⟩
    decide
  · intro c last
    rw [← List.cons_append, List.getLast?_concat] at last
    cases last
    decide

theorem trimmed_emptyText (typeName : String) (name : Option String) :
    Trimmed (emptyText typeName name) := by
  have bracketed := trimmed_bracketed (headingText typeName name ++ ['/'])
  rw [List.append_assoc] at bracketed
  exact bracketed

theorem classify_opening {rest : List Char} (trimmed : Trimmed ('<' :: rest))
    (noSlash : ∀ c ∈ rest.head?, c ≠ '/') {line : Line} (read : readOpenTag rest = some line) :
    classify ('<' :: rest) = .ok line := by
  unfold classify
  rw [trim_of_trimmed trimmed]
  dsimp only
  split
  · next same => cases same
  · next same => cases same
  · next same => cases same
  · next same =>
    cases same
    exact absurd rfl (noSlash _ rfl)
  · next same =>
    cases same
    rw [read]
  · next notOpening => exact absurd rfl (notOpening rest)

theorem head?_headingText (isType : isName typeName.toList = true) (rest : List Char) :
    ∀ c ∈ (headingText typeName name ++ rest).head?, c ≠ '/' := by
  obtain ⟨c, others, spelled, begins, _⟩ := isName_iff.mp isType
  have first : (headingText typeName name ++ rest).head? = some c := by
    cases name with
    | none => rw [headingText, spelled]; rfl
    | some text => rw [headingText, spelled]; rfl
  rw [first]
  rintro _ ⟨⟩
  exact (isNameStart_ne begins).2.2.2

theorem lowercased_names (isType : IsOwnName typeName)
    (isSectionName : ∀ text ∈ name, IsOwnSectionName text) :
    lowercased (.ofList typeName.toList) = typeName ∧
      (name.map String.toList).map (lowercased <| .ofList ·) = name := by
  rw [String.ofList_toList]
  refine ⟨isType.isLower, ?_⟩
  cases name with
  | none => rfl
  | some text =>
    show some (lowercased (.ofList text.toList)) = some text
    rw [String.ofList_toList, (isSectionName text rfl).isLower]

/-- An opening tag is read as what it was written for. -/
theorem classify_openText (isType : IsOwnName typeName)
    (isSectionName : ∀ text ∈ name, IsOwnSectionName text) :
    classify (openText typeName name) = .ok (.openTag typeName name) := by
  obtain ⟨sameType, sameName⟩ := lowercased_names isType isSectionName
  refine classify_opening (trimmed_bracketed _) (head?_headingText isType.isName _) ?_
  rw [readOpenTag_headingText isType.isName isSectionName (.inl rfl), tagEnding, sameType, sameName]

/-- An empty tag is read as what it was written for. -/
theorem classify_emptyText (isType : IsOwnName typeName)
    (isSectionName : ∀ text ∈ name, IsOwnSectionName text) :
    classify (emptyText typeName name) = .ok (.emptyTag typeName name) := by
  obtain ⟨sameType, sameName⟩ := lowercased_names isType isSectionName
  refine classify_opening (trimmed_emptyText typeName name) (head?_headingText isType.isName _) ?_
  rw [readOpenTag_headingText isType.isName isSectionName (.inr rfl), tagEnding, sameType, sameName]

/-- A closing tag is read as what it was written for. -/
theorem classify_closeText (isType : IsOwnName typeName) :
    classify (closeText typeName) = .ok (.closeTag typeName) := by
  have ends : ∀ c ∈ ['>'].head?, isNameChar c = false := by
    rintro _ ⟨⟩
    decide +kernel
  have read : readCloseTag (typeName.toList ++ ['>']) = some (.closeTag typeName) := by
    unfold readCloseTag
    rw [trimStart_name isType.isName, splitName_append isType.isName ends, Option.bind_eq_bind,
      Option.bind_some]
    have same : trimStart ['>'] = ['>'] := by decide
    dsimp only
    rw [if_pos same, String.ofList_toList, isType.isLower]
  have trimmed : Trimmed (closeText typeName) := trimmed_bracketed ('/' :: typeName.toList)
  unfold classify
  rw [trim_of_trimmed trimmed]
  unfold closeText
  dsimp only
  split
  · next same => cases same
  · next same => cases same
  · next same => cases same
  · next same =>
    cases same
    rw [read]
  · next notClosing same =>
    cases same
    exact absurd rfl (notClosing _)
  · next notClosing _ => exact absurd rfl (notClosing _)

/-! ### Options -/

/-- The line of an option. Dollar signs of its value are doubled. -/
def optionText (key value : String) : List Char := key.toList ++ ' ' :: doubled value.toList

/-- The value of an option is some text on one line, without blanks at its ends. -/
structure IsOwnValue (value : String) : Prop where
  notEmpty : value.toList ≠ []
  trimmed : Trimmed value.toList
  noLineFeed : '\n' ∉ value.toList

theorem head?_doubled (text : List Char) : (doubled text).head? = text.head? := by
  cases text with
  | nil => rfl
  | cons c rest =>
    rw [doubled]
    split
    · next isDollar => rw [isDollar]; rfl
    · rfl

theorem doubled_eq_nil_iff {text : List Char} : doubled text = [] ↔ text = [] := by
  rw [← List.head?_eq_none_iff, head?_doubled, List.head?_eq_none_iff]

theorem getLast?_doubled (text : List Char) : (doubled text).getLast? = text.getLast? := by
  induction text with
  | nil => rfl
  | cons c rest ih =>
    rw [doubled]
    split
    · next isDollar =>
      rw [List.getLast?_cons, List.getLast?_cons, ih, List.getLast?_cons, isDollar]
      rfl
    · rw [List.getLast?_cons, ih, List.getLast?_cons]

theorem mem_doubled_iff {c : Char} {text : List Char} : c ∈ doubled text ↔ c ∈ text := by
  induction text with
  | nil => rfl
  | cons first rest ih =>
    rw [doubled]
    split
    · next isDollar => simp [isDollar, ih]
    · simp [ih]

theorem trimmed_doubled {text : List Char} (trimmed : Trimmed text) : Trimmed (doubled text) := by
  unfold Trimmed
  rw [head?_doubled, getLast?_doubled]
  exact trimmed

theorem trimmed_optionText {key value : String} (isKey : IsOwnName key)
    (isValue : IsOwnValue value) : Trimmed (optionText key value) := by
  obtain ⟨c, others, spelled, begins, _⟩ := isName_iff.mp isKey.isName
  refine ⟨?_, ?_⟩
  · unfold optionText
    rw [spelled]
    rintro _ ⟨⟩
    exact isBlank_of_isNameStart begins
  · intro last isLast
    apply isValue.trimmed.2 last
    unfold optionText at isLast
    rw [List.getLast?_append, List.getLast?_cons, getLast?_doubled] at isLast
    cases found : value.toList.getLast? with
    | none => exact absurd (List.getLast?_eq_none_iff.mp found) isValue.notEmpty
    | some final =>
      rw [found] at isLast
      exact isLast

theorem trim_space {text : List Char} (trimmed : Trimmed text) : trim (' ' :: text) = text := by
  have whole := trim_of_trimmed trimmed
  unfold trim at whole ⊢
  rw [trimStart_space trimmed.1]
  rw [show trimStart text = text from dropWhile_eq_self trimmed.1] at whole
  exact whole

/-- A line that begins like a name is an option. -/
theorem classify_eq_readOption {c : Char} {rest : List Char} (trimmed : Trimmed (c :: rest))
    (begins : isNameStart c = true) : classify (c :: rest) = readOption (c :: rest) := by
  obtain ⟨noComment, noDefinition, noTag, _⟩ := isNameStart_ne begins
  unfold classify
  rw [trim_of_trimmed trimmed]
  dsimp only
  split
  · next same => cases same
  · next same => exact absurd (List.cons.inj same).1 noComment
  · next same => exact absurd (List.cons.inj same).1 noDefinition
  · next same => exact absurd (List.cons.inj same).1 noTag
  · next same => exact absurd (List.cons.inj same).1 noTag
  · rfl

/-- An option is read as what it was written for. -/
theorem classify_optionText {key value : String} (isKey : IsOwnName key)
    (isValue : IsOwnValue value) :
    classify (optionText key value) = .ok (.option key (doubled value.toList)) := by
  obtain ⟨c, others, spelled, begins, goesOn⟩ := isName_iff.mp isKey.isName
  have trimmed := trimmed_optionText isKey isValue
  have noBlank : ∀ other ∈ key.toList, (!isBlank other) = true := by
    rw [spelled]
    refine List.forall_mem_cons.mpr ⟨?_, fun other present => ?_⟩
    · rw [isBlank_of_isNameStart begins, Bool.not_false]
    · rw [isBlank_of_isNameChar (goesOn other present), Bool.not_false]
  have stop : ∀ other ∈ (' ' :: doubled value.toList).head?, (!isBlank other) = false := by
    rintro _ ⟨⟩
    decide
  have apart := takeWhile_append_of_stop noBlank stop
  have present : (doubled value.toList).isEmpty = false :=
    List.isEmpty_eq_false_iff.mpr fun none => isValue.notEmpty (doubled_eq_nil_iff.mp none)
  have asOption : classify (optionText key value) = readOption (optionText key value) := by
    unfold optionText at trimmed ⊢
    rw [spelled] at trimmed ⊢
    exact classify_eq_readOption trimmed begins
  rw [asOption]
  unfold readOption optionText
  rw [apart.1, apart.2, trim_space (trimmed_doubled isValue.trimmed)]
  dsimp only
  rw [if_pos isKey.isName, if_neg (by rw [present]; exact Bool.false_ne_true), String.ofList_toList]

/-! ### One line each -/

theorem isLine_of_trimmed {text : List Char} (trimmed : Trimmed text) (noLineFeed : '\n' ∉ text) :
    IsLine text := by
  refine ⟨noLineFeed, fun last => ?_⟩
  exact absurd (trimmed.2 _ last) (by decide)

theorem lineFeed_notMem_name {text : String} (isName : isName text.toList = true) :
    '\n' ∉ text.toList := by
  obtain ⟨c, others, spelled, begins, goesOn⟩ := isName_iff.mp isName
  rw [spelled, List.mem_cons, not_or]
  refine ⟨?_, fun present => absurd (isBlank_of_isNameChar (goesOn _ present)) (by decide)⟩
  rintro rfl
  exact absurd (isBlank_of_isNameStart begins) (by decide)

theorem lineFeed_notMem_headingText (isType : IsOwnName typeName)
    (isSectionName : ∀ text ∈ name, IsOwnSectionName text) :
    '\n' ∉ headingText typeName name := by
  cases name with
  | none => exact lineFeed_notMem_name isType.isName
  | some text =>
    unfold headingText
    rw [List.mem_append, List.mem_cons, not_or, not_or]
    refine ⟨lineFeed_notMem_name isType.isName, by decide, fun present => ?_⟩
    exact absurd ((isSectionName text rfl).characters _ present) (by decide)

theorem isLine_openText (isType : IsOwnName typeName)
    (isSectionName : ∀ text ∈ name, IsOwnSectionName text) : IsLine (openText typeName name) := by
  refine isLine_of_trimmed (trimmed_bracketed _) ?_
  have apart := lineFeed_notMem_headingText isType isSectionName
  simp [openText, apart]

theorem isLine_emptyText (isType : IsOwnName typeName)
    (isSectionName : ∀ text ∈ name, IsOwnSectionName text) : IsLine (emptyText typeName name) := by
  refine isLine_of_trimmed (trimmed_emptyText typeName name) ?_
  have apart := lineFeed_notMem_headingText isType isSectionName
  simp [emptyText, apart]

theorem isLine_closeText (isType : IsOwnName typeName) : IsLine (closeText typeName) := by
  refine isLine_of_trimmed (trimmed_bracketed ('/' :: typeName.toList)) ?_
  have apart := lineFeed_notMem_name isType.isName
  simp [closeText, apart]

theorem isLine_optionText {key value : String} (isKey : IsOwnName key)
    (isValue : IsOwnValue value) : IsLine (optionText key value) := by
  refine isLine_of_trimmed (trimmed_optionText isKey isValue) ?_
  unfold optionText
  rw [List.mem_append, List.mem_cons, not_or, not_or, mem_doubled_iff]
  exact ⟨lineFeed_notMem_name isKey.isName, by decide, isValue.noLineFeed⟩

end Line

end StoreTopology

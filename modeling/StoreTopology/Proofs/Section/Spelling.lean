/-
**The two spellings of a reference.**

A name that is defined may be referred to in braces, whatever it is. Without braces a reference ends
before the first character that is no ASCII letter, digit or underscore, while names may be defined
with word characters of any script.

* `Line.classify_definition_iff`: the names that a line may define;
* `Outline.widens_of_readLines`: what is defined stays so, with its value;
* `Outline.references_of_defined`: what the two spellings of a reference stand for;
* `Outline.references_differ`: a name whose spellings do not stand for the same.
-/

import StoreTopology.Proofs.Section.Expansion
import StoreTopology.Proofs.Section.Joining
import StoreTopology.Proofs.Section.LineCase

namespace StoreTopology

open Text

/-! ### Names that a line may define -/

/-- The text is a word, as it may stand between blanks. -/
structure IsWord (text : List Char) : Prop where
  notEmpty : text ≠ []
  noBlank : ∀ c ∈ text, isBlank c = false

/-- The line is written as the definition of a word with a value, which may be empty. -/
structure WritesDefinition (raw name value : List Char) : Prop where
  isWord : IsWord name
  trimmed : Trimmed value
  written : ∃ word gap between, fold word = ['d', 'e', 'f', 'i', 'n', 'e'] ∧
    (∀ c ∈ gap, isBlank c = true) ∧ gap ≠ [] ∧ (∀ c ∈ between, isBlank c = true) ∧
    (between = [] ↔ value = []) ∧ trim raw = '%' :: (word ++ gap ++ name ++ between ++ value)

namespace Line

variable {raw name value : List Char}

/-- In what is a run of word characters up to a blank or the end, no other character stands before
the first blank. -/
theorem isWordChar_of_dropWhile {run rest : List Char} (noBlank : ∀ c ∈ run, isBlank c = false)
    (ends : ∀ c ∈ ((run ++ rest).dropWhile isWordChar).head?, isBlank c = true) :
    ∀ c ∈ run, isWordChar c = true := by
  induction run with
  | nil => exact List.forall_mem_nil _
  | cons c run ih =>
    obtain ⟨notBlank, others⟩ := List.forall_mem_cons.mp noBlank
    rw [List.cons_append, List.dropWhile_cons] at ends
    by_cases isWord : isWordChar c = true
    · rw [if_pos isWord] at ends
      exact List.forall_mem_cons.mpr ⟨isWord, ih others ends⟩
    · rw [if_neg isWord] at ends
      exact absurd (ends c rfl) (by simp [notBlank])

/-- A word that a line defines may be defined. -/
theorem isDefinable_of_readDefinition {word gap rest : List Char} {line : Line}
    (isWord : IsWord name) (isDefine : fold word = ['d', 'e', 'f', 'i', 'n', 'e'])
    (blank : ∀ c ∈ gap, isBlank c = true)
    (read : readDefinition ('%' :: word ++ (gap ++ (name ++ rest))) = some line) :
    IsDefinable name := by
  obtain ⟨c, run, rfl⟩ := List.exists_cons_of_ne_nil isWord.notEmpty
  obtain ⟨notBlank, noBlank⟩ := List.forall_mem_cons.mp isWord.noBlank
  have start : trimStart (gap ++ (c :: run ++ rest)) = c :: (run ++ rest) :=
    trimStart_gap blank (by rintro _ ⟨⟩; exact notBlank)
  rw [readDefinition_word isDefine, start] at read
  dsimp only at read
  split at read
  · next accepted =>
    simp only [Bool.and_eq_true, Bool.or_eq_true, List.isEmpty_iff] at accepted
    obtain ⟨⟨_, begins⟩, ends⟩ := accepted
    have stops : ∀ d ∈ ((run ++ rest).dropWhile isWordChar).head?, isBlank d = true := by
      intro d first
      rcases ends with none | blank
      · rw [none] at first
        cases first
      · rw [Option.mem_def.mp first] at blank
        exact blank
    exact ⟨c, run, rfl, begins, isWordChar_of_dropWhile noBlank stops⟩
  · cases read

/-- The words that may be defined are those that begin like a name and go on with word
characters. -/
theorem classify_definition_iff (writes : WritesDefinition raw name value) {line : Line} :
    classify raw = .ok line ↔
      IsDefinable name ∧ line = .definition (lowercased (.ofList name)) value := by
  obtain ⟨isWord, trimmed, word, gap, between, isDefine, blank, apart, blankBetween, ends,
    written⟩ := writes
  have whole := written ▸ trim_trimmed raw
  rw [← classify_trim, written]
  constructor
  · intro classified
    have definable : IsDefinable name := by
      have isRead := classified
      rw [classify_percent whole] at isRead
      split at isRead
      · next found read =>
        have parts : '%' :: (word ++ gap ++ name ++ between ++ value) =
            '%' :: word ++ (gap ++ (name ++ (between ++ value))) := by simp
        exact isDefinable_of_readDefinition isWord isDefine blank (parts ▸ read)
      · cases isRead
    rw [classify_wordAndName isDefine blank apart definable blankBetween ends trimmed] at classified
    exact ⟨definable, (Except.ok.inj classified).symm⟩
  · rintro ⟨definable, rfl⟩
    exact classify_wordAndName isDefine blank apart definable blankBetween ends trimmed

end Line

/-! ### Definitions stay -/

namespace Outline

variable {outline next later : Outline} {number : Nat} {name value : List Char}

theorem widens_of_settle {definitions after : Definitions} {line settled : Line}
    (settles : line.settle definitions = .ok (settled, after)) : Widens definitions after := by
  cases line with
  | definition name value =>
    obtain ⟨text, _, free, _, rfl⟩ := settle_definition_iff.mp settles
    intro other known found
    rw [SortedMap.get?_insert, if_neg ?_]
    · exact found
    · rintro rfl
      simp [SortedMap.contains, found] at free
  | option key value =>
    obtain ⟨text, _, _, rfl⟩ := settle_option_iff.mp settles
    exact fun _ _ found => found
  | blank => cases settles; exact fun _ _ found => found
  | openTag typeName name => cases settles; exact fun _ _ found => found
  | emptyTag typeName name => cases settles; exact fun _ _ found => found
  | closeTag typeName => cases settles; exact fun _ _ found => found

/-- What is defined stays so, with its value. -/
theorem widens_of_readLines {raws : List (List Char)}
    (reads : outline.readLines number raws = .ok later) :
    Widens outline.definitions later.definitions := by
  induction raws generalizing outline number with
  | nil =>
    cases reads
    exact fun _ _ found => found
  | cons raw rest ih =>
    rw [readLines] at reads
    split at reads
    · cases reads
    · next between first =>
      have first : (outline.withDefinitions outline.definitions).readLine number raw =
          .ok between := first
      obtain ⟨_, _, after, placed, _, settles, _, rfl⟩ := readLine_eq_ok_iff.mp first
      exact fun _ _ found => ih reads _ _ (widens_of_settle settles _ _ found)

end Outline

/-! ### References to a name -/

/-- A reference with braces. -/
def bracedReference (name : List Char) : List Char := '$' :: '{' :: (name ++ ['}'])

/-- A reference without braces. -/
def bareReference (name : List Char) : List Char := '$' :: name

/-- A character that does not belong to a reference without braces does not begin one. -/
theorem isBareStart_of_not_isBareChar {c : Char} (stops : Token.isBareChar c = false) :
    Token.isBareStart c = false := by
  unfold Token.isBareChar Char.isAlphanum at stops
  unfold Token.isBareStart
  simp only [Bool.or_eq_false_iff] at stops ⊢
  exact ⟨stops.1.1, stops.2⟩

section Referring

variable {definitions : Definitions} {name text : List Char}

theorem doubled_eq_self (noDollar : '$' ∉ text) : doubled text = text := by
  induction text with
  | nil => rfl
  | cons c rest ih =>
    rw [List.mem_cons, not_or] at noDollar
    rw [doubled, if_neg (Ne.symm noDollar.1), ih noDollar.2]

/-- A text without dollar signs stands for itself. -/
theorem substitute_of_noDollar (definitions : Definitions) (noDollar : '$' ∉ text) :
    substitute definitions text = .ok text := by
  have stands := substitute_doubled definitions text
  rw [doubled_eq_self noDollar] at stands
  exact stands

theorem substitute_bracedReference (noBrace : '}' ∉ name) {known : String}
    (isDefined : definitions.get? (lowercased (.ofList name)) = some known) :
    substitute definitions (bracedReference name) = .ok known.toList :=
  substitute_eq_ok_iff.mpr ⟨[.braced name], [known.toList], .braced noBrace .nil,
    .cons (.braced isDefined) .nil, by simp⟩

/-- A reference without braces ends before the first character that does not belong to one. -/
theorem substitute_bareReference (definitions : Definitions) {start : Char} {run back : List Char}
    (begins : Token.isBareStart start = true) (goesOn : ∀ c ∈ run, Token.isBareChar c = true)
    (ends : ∀ c ∈ back.head?, Token.isBareChar c = false) (noDollar : '$' ∉ back) :
    substitute definitions (bareReference (start :: (run ++ back))) =
      match definitions.get? (lowercased (.ofList (start :: run))) with
      | some known => .ok (known.toList ++ back)
      | none => .error (.undefinedName (.ofList (start :: run))) := by
  cases known : definitions.get? (lowercased (.ofList (start :: run))) with
  | some value =>
    obtain ⟨tokens, pieces, splits, stand, whole⟩ :=
      substitute_eq_ok_iff.mp (substitute_of_noDollar definitions noDollar)
    exact substitute_eq_ok_iff.mpr ⟨_, _, .bare begins goesOn ends splits,
      .cons (.bare known) stand, by rw [List.flatten_cons, ← whole]⟩
  | none =>
    exact substitute_eq_error_iff.mpr
      (.here (.undefinedBare begins goesOn ends known))

namespace Line.IsDefinable

theorem notMem (definable : IsDefinable name) {mark : Char} (noStart : isDefinableStart mark = false)
    (noWord : isWordChar mark = false) : mark ∉ name := by
  obtain ⟨c, rest, rfl, begins, goesOn⟩ := definable
  intro present
  rcases List.mem_cons.mp present with rfl | later
  · rw [begins] at noStart
    cases noStart
  · rw [goesOn mark later] at noWord
    cases noWord

/-- The first letter of a defined name begins a reference without braces if it belongs to one. -/
theorem isBareStart {c : Char} (begins : isDefinableStart c = true)
    (isBare : Token.isBareChar c = true) : Token.isBareStart c = true := by
  unfold isDefinableStart isNameStart at begins
  simp only [Bool.or_eq_true, decide_eq_true_eq] at begins
  rcases begins with (begins | rfl) | rfl
  · simpa [Token.isBareStart] using begins
  · exact absurd isBare (by decide)
  · exact absurd isBare (by decide)

end Line.IsDefinable

end Referring

namespace Outline

variable {outline next later : Outline} {number following : Nat} {raw name value : List Char}
  {raws : List (List Char)}

/-- A line that defines a name gives it what the value stands for, for all lines after it. -/
theorem exists_definition (writes : WritesDefinition raw name value)
    (defines : outline.readLine number raw = .ok next)
    (further : next.readLines following raws = .ok later) :
    ∃ text, Line.IsDefinable name ∧ substitute outline.definitions value = .ok text ∧
      later.definitions.get? (lowercased (.ofList name)) = some (.ofList text) := by
  have defines : (outline.withDefinitions outline.definitions).readLine number raw = .ok next :=
    defines
  obtain ⟨line, settled, after, placed, classified, settles, _, rfl⟩ :=
    readLine_eq_ok_iff.mp defines
  obtain ⟨definable, rfl⟩ := (Line.classify_definition_iff writes).mp classified
  obtain ⟨text, replaced, _, _, rfl⟩ := settle_definition_iff.mp settles
  exact ⟨text, definable, replaced,
    widens_of_readLines further _ _ (SortedMap.get?_insert_self _ _ _)⟩

/-- **What the two spellings of a reference stand for** after a name was defined. In braces the name
stands for what its value stood for. Without braces it does so if all its characters are ASCII
letters, digits or underscores. If not, the reference ends before the first other character: what
stands before it is a name of its own, or nothing. -/
theorem references_of_defined (writes : WritesDefinition raw name value)
    (defines : outline.readLine number raw = .ok next)
    (further : next.readLines following raws = .ok later) :
    ∃ text, substitute outline.definitions value = .ok text ∧
      substitute later.definitions (bracedReference name) = .ok text ∧
      ((∀ c ∈ name, Token.isBareChar c = true) →
        substitute later.definitions (bareReference name) = .ok text) ∧
      ∀ front c back, name = front ++ c :: back → (∀ d ∈ front, Token.isBareChar d = true) →
        Token.isBareChar c = false →
        substitute later.definitions (bareReference name) =
          if front = [] then .error .loneDollar
          else match later.definitions.get? (lowercased (.ofList front)) with
            | some known => .ok (known.toList ++ c :: back)
            | none => .error (.undefinedName (.ofList front)) := by
  obtain ⟨text, definable, replaced, isDefined⟩ := exists_definition writes defines further
  have noBrace : '}' ∉ name := definable.notMem (by decide) (by decide +kernel)
  have noDollar : '$' ∉ name := definable.notMem (by decide) (by decide +kernel)
  obtain ⟨start, rest, rfl, begins, goesOn⟩ := definable
  refine ⟨text, replaced, ?_, fun allBare => ?_, fun front c back split frontBare stops => ?_⟩
  · rw [substitute_bracedReference noBrace isDefined, String.toList_ofList]
  · obtain ⟨startBare, restBare⟩ := List.forall_mem_cons.mp allBare
    have noEnd : ∀ c ∈ ([] : List Char).head?, Token.isBareChar c = false := nofun
    have bare := substitute_bareReference later.definitions
      (Line.IsDefinable.isBareStart begins startBare) restBare noEnd List.not_mem_nil
    rw [List.append_nil, isDefined] at bare
    simpa using bare
  · cases front with
    | nil =>
      -- The name begins with the Kelvin sign or the long s, and the dollar sign with nothing.
      obtain ⟨rfl, rfl⟩ := List.cons.inj split
      rw [if_pos rfl]
      refine substitute_eq_error_iff.mpr (.here (.lone ?_))
      rintro _ ⟨⟩
      refine ⟨?_, ?_, isBareStart_of_not_isBareChar stops⟩
      · rintro rfl
        exact noDollar List.mem_cons_self
      · rintro rfl
        exact absurd begins (by decide)
    | cons d run =>
      obtain ⟨rfl, rfl⟩ := List.cons.inj split
      obtain ⟨startBare, runBare⟩ := List.forall_mem_cons.mp frontBare
      rw [if_neg (List.cons_ne_nil _ _)]
      refine substitute_bareReference _ (Line.IsDefinable.isBareStart begins startBare) runBare ?_ ?_
      · rintro _ ⟨⟩
        exact stops
      · exact fun present => noDollar (List.mem_cons_of_mem _ (List.mem_append_right _ present))

/-- A name with an accent. -/
def accentedName : List Char := ['n', 'a', 'ï', 'v', 'e']

/-- The line that defines the name. -/
def accentedDefinition : List Char := "%define ".toList ++ accentedName ++ [' ', '1']

/-- The name is defined, and has its value in braces. -/
theorem references_of_defined_accented :
    ∃ next, Outline.readLine {} 1 accentedDefinition = .ok next ∧
      substitute next.definitions (bracedReference accentedName) = .ok ['1'] := by
  have noBlank : (accentedName.all fun c => ! isBlank c) = true := by decide +kernel
  have isSpace : ∀ c ∈ [' '], isBlank c = true := List.forall_mem_singleton.mpr (by decide)
  have writes : WritesDefinition accentedDefinition accentedName ['1'] :=
    { isWord := ⟨List.cons_ne_nil _ _, by simpa using noBlank⟩
      trimmed := ⟨by rintro _ ⟨⟩; decide, by rintro _ ⟨⟩; decide⟩
      written := ⟨"define".toList, [' '], [' '], by decide +kernel, isSpace, List.cons_ne_nil _ _,
        isSpace, by simp, by decide +kernel⟩ }
  have isRead : (Outline.readLine {} 1 accentedDefinition).toOption.isSome = true := by
    decide +kernel
  obtain ⟨next, found⟩ := Option.isSome_iff_exists.mp isRead
  have defines := toOption_eq_some_iff.mp found
  have noFurther : next.readLines 2 [] = .ok next := rfl
  obtain ⟨text, replaced, braced, _⟩ := references_of_defined writes defines noFurther
  rw [substitute_of_noDollar _ (by decide)] at replaced
  cases replaced
  exact ⟨next, defines, braced⟩

/-- A section with a reference to the name, after its definition. -/
def accentedText (reference : List Char → List Char) : String :=
  .ofList (accentedDefinition ++ "\n<s>\n  k ".toList ++ reference accentedName ++
    "\n</s>\n".toList)

/-- The name has its value in braces. Without braces another name is looked for. -/
theorem references_differ :
    parse (accentedText bracedReference) = .ok [⟨"s", none, [⟨"k", "1", 3⟩], [], 2, 4⟩] ∧
      parse (accentedText bareReference) = .error ⟨.undefinedName "na", 3⟩ :=
  ⟨toOption_eq_some_iff.mp (by decide +kernel), error?_eq_some_iff.mp (by decide +kernel)⟩

end Outline

end StoreTopology

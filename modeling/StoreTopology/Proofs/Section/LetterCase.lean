/-
**The case of names does not matter.**

* `Outline.readLines_of_recased`: lines that differ in the case of names only are read to the same
  outline, or refused alike for a section name that is taken;
* `parse_letterCase`: texts of such lines have the same sections, if one of them has any.
-/

import StoreTopology.Proofs.Section.LineCase

namespace StoreTopology

open Text

/-! ### Outlines -/

/-- A section name is taken. -/
def ParseProblem.isReused : ParseProblem → Bool
  | reusedName _ => true
  | _ => false

/-- A problem that lies in a line by itself is no name that is taken. -/
theorem ParseProblem.not_isReused {problem : ParseProblem} (ofLine : problem.isOfSections = false) :
    ¬ problem.isReused = true := by
  cases problem with
  | reusedName name => cases ofLine
  | _ => exact Bool.false_ne_true

theorem isOfSections_of_substitute {definitions : Definitions} {value : List Char}
    {problem : ParseProblem} (refused : substitute definitions value = .error problem) :
    problem.isOfSections = false := isOfSections_of_expand refused

namespace Outline

variable {outline : Outline} {number : Nat}

/-- Lines that say the same but for the case of names do the same to an outline, if it takes one of
them or refuses it for a section name. -/
theorem add_of_alike {line other : Line} (alike : line.Alike other)
    (firm : ∀ problem, outline.add number line = .error problem → problem.isReused = true) :
    outline.add number other = outline.add number line := by
  cases alike with
  | same => rfl
  | @option key otherKey value otherValue sameKey recased =>
    rw [add, add]
    simp only [add] at firm
    unfold addOption at firm ⊢
    cases replaced : substitute outline.definitions value with
    | error problem =>
      rw [replaced] at firm
      exact absurd (firm problem rfl) (problem.not_isReused (isOfSections_of_substitute replaced))
    | ok text =>
      rw [replaced] at firm
      rw [substitute_of_recased recased replaced, sameKey]
      cases enclosed : outline.enclosing with
      | nil =>
        rw [enclosed] at firm
        exact absurd (firm (.strayOption key) rfl) Bool.false_ne_true
      | cons opened outer => rfl
  | @definition name value other recased =>
    rw [add, add]
    simp only [add] at firm
    unfold define at firm ⊢
    cases replaced : substitute outline.definitions value with
    | error problem =>
      rw [replaced] at firm
      exact absurd (firm problem rfl) (problem.not_isReused (isOfSections_of_substitute replaced))
    | ok text => rw [substitute_of_recased recased replaced]

/-- So do the lines as they are written. -/
theorem readLine_of_recased {raw other : List Char} (recased : RecasedLine raw other)
    (firm : ∀ error, outline.readLine number raw = .error error → error.problem.isReused = true) :
    outline.readLine number other = outline.readLine number raw := by
  unfold readLine at firm ⊢
  cases classified : Line.classify raw with
  | error problem =>
    rw [classified] at firm
    exact absurd (firm _ rfl) (problem.not_isReused (isOfSections_of_classify classified))
  | ok line =>
    rw [classified] at firm
    obtain ⟨alike, isAlike, same⟩ := classify_of_recased recased classified
    have firmLine : ∀ problem, outline.add number line = .error problem →
        problem.isReused = true := by
      intro problem refused
      refine firm ⟨problem, number⟩ ?_
      dsimp only
      rw [refused]
    rw [isAlike]
    dsimp only
    rw [add_of_alike same firmLine]

/-- Lines that differ in the case of names are read to the same outline, or refused alike for a
section name that is taken. -/
theorem readLines_of_recased {raws others : List (List Char)}
    (same : List.Forall₂ RecasedLine raws others)
    (firm : ∀ error, outline.readLines number raws = .error error → error.problem.isReused = true) :
    outline.readLines number others = outline.readLines number raws := by
  induction same generalizing outline number with
  | nil => rfl
  | @cons raw other rest later recased _ ih =>
    rw [readLines] at firm
    cases reads : outline.readLine number raw with
    | error error =>
      rw [reads] at firm
      have alike := readLine_of_recased recased fun _ refused =>
        firm _ (by rw [reads] at refused; exact refused)
      rw [readLines, readLines, alike, reads]
    | ok next =>
      rw [reads] at firm
      have alike := readLine_of_recased recased fun _ refused => by
        rw [reads] at refused
        cases refused
      rw [readLines, readLines, alike, reads]
      exact ih firm

end Outline

theorem parseLines_of_recased {raws others : List (List Char)}
    (same : List.Forall₂ RecasedLine raws others)
    (firm : ∀ error, parseLines raws = .error error → error.problem.isReused = true) :
    parseLines others = parseLines raws := by
  rw [parseLines_eq_bind] at firm
  rw [parseLines_eq_bind, parseLines_eq_bind, Outline.readLines_of_recased same]
  intro error refused
  refine firm error ?_
  rw [refused]
  rfl

/-! ### Texts -/

/-- **The case of names does not matter.** Two texts whose lines differ in the case of ASCII letters
in names only have the same sections, if either of them has any. Section names that differ in this
way are the same name: where one text is refused for a name that is taken, so is the other. -/
theorem parse_letterCase {text other : String} {raws others : List (List Char)}
    (taken : TakenAs text.toList raws) (takenOther : TakenAs other.toList others)
    (recased : List.Forall₂ RecasedLine raws others) :
    (∀ forest, parse text = .ok forest ↔ parse other = .ok forest) ∧
      ∀ name number, parse text = .error ⟨.reusedName name, number⟩ ↔
        parse other = .error ⟨.reusedName name, number⟩ := by
  have back : List.Forall₂ RecasedLine others raws := (recased.imp fun _ _ => .symm).flip
  rw [parse_eq_parseLines taken, parse_eq_parseLines takenOther]
  refine ⟨fun forest => ⟨fun parsed => ?_, fun parsed => ?_⟩, fun name number =>
    ⟨fun refused => ?_, fun refused => ?_⟩⟩
  · rw [parseLines_of_recased recased (by rw [parsed]; exact nofun), parsed]
  · rw [parseLines_of_recased back (by rw [parsed]; exact nofun), parsed]
  · rw [parseLines_of_recased recased (by rw [refused]; rintro _ ⟨⟩; rfl), refused]
  · rw [parseLines_of_recased back (by rw [refused]; rintro _ ⟨⟩; rfl), refused]

/-- A text with names in each of the places where they stand, and the same in other cases. -/
def mixedText : String := "%define dir data\n<zodb FoΣ>\nPath $dir/X\n</zodb>\n"

def recasedText : String := "%DeFine DIR data\n<ZODB fOΣ>\npATH $Dir/X\n</zOdb>\n"

/-- Both texts have the same section, and a name that is taken is taken in either case. -/
theorem parse_letterCase_texts :
    parse mixedText = .ok [⟨"zodb", some "foς", [⟨"path", "data/X", 3⟩], [], 2, 4⟩] ∧
      parse recasedText = .ok [⟨"zodb", some "foς", [⟨"path", "data/X", 3⟩], [], 2, 4⟩] ∧
      parse "<zodb Foo/>\n<zodb Foo/>\n" = .error ⟨.reusedName "foo", 2⟩ ∧
      parse "<zodb Foo/>\n<zodb fOO/>\n" = .error ⟨.reusedName "foo", 2⟩ := by
  have mixed : parse mixedText = .ok [⟨"zodb", some "foς", [⟨"path", "data/X", 3⟩], [], 2, 4⟩] :=
    toOption_eq_some_iff.mp (by decide +kernel)
  have refused : parse "<zodb Foo/>\n<zodb Foo/>\n" = .error ⟨.reusedName "foo", 2⟩ :=
    error?_eq_some_iff.mp (by decide +kernel)
  have taken : TakenAs mixedText.toList
      ['%' :: ("define".toList ++ [' '] ++ "dir".toList ++ [' '] ++ "data".toList),
        '<' :: "zodb FoΣ>".toList, "Path".toList ++ [' '] ++ "$dir/X".toList,
        '<' :: "/zodb>".toList] :=
    ⟨.inl (by decide +kernel), by decide +kernel⟩
  have takenRecased : TakenAs recasedText.toList
      ['%' :: ("DeFine".toList ++ [' '] ++ "DIR".toList ++ [' '] ++ "data".toList),
        '<' :: "ZODB fOΣ>".toList, "pATH".toList ++ [' '] ++ "$Dir/X".toList,
        '<' :: "/zOdb>".toList] :=
    ⟨.inl (by decide +kernel), by decide +kernel⟩
  have data : RecasedValue "data".toList "data".toList := by
    refine ⟨_, _, Token.splits_iff_read.mpr ⟨rfl, ?_⟩, List.forall₂_same.mpr fun token _ =>
      .same token, ?_⟩
    · decide +kernel
    · decide +kernel
  have path : RecasedValue "$dir/X".toList "$Dir/X".toList := by
    refine ⟨[.bare "dir".toList, .plain '/', .plain 'X'], [.bare "Dir".toList, .plain '/', .plain 'X'],
      Token.splits_iff_read.mpr ⟨?_, ?_⟩, .cons (.bare ?_) (.cons (.same _) (.cons (.same _) .nil)), ?_⟩
    all_goals decide +kernel
  have blank : ∀ c ∈ [' '], isBlank c = true := List.forall_mem_singleton.mpr (by decide +kernel)
  have definable : Line.IsDefinable "dir".toList :=
    ⟨'d', ['i', 'r'], by decide +kernel, by decide +kernel, List.all_eq_true.mp (by decide +kernel)⟩
  have same := parse_letterCase taken takenRecased <| .cons
    (.definition (by decide +kernel) (by decide +kernel) blank (List.cons_ne_nil _ _)
      definable (by decide +kernel) blank (by decide +kernel)
      (trim_eq_self_iff.mp (by decide +kernel)) data)
    (.cons (.tag (by decide +kernel)) (.cons
      (.option (by decide +kernel) (by decide +kernel) blank (List.cons_ne_nil _ _)
        (trim_eq_self_iff.mp (by decide +kernel)) (by decide +kernel) path)
      (.cons (.tag (by decide +kernel)) .nil)))
  have takenTwice : TakenAs "<zodb Foo/>\n<zodb Foo/>\n".toList
      ['<' :: "zodb Foo/>".toList, '<' :: "zodb Foo/>".toList] :=
    ⟨.inl (by decide +kernel), by decide +kernel⟩
  have takenOther : TakenAs "<zodb Foo/>\n<zodb fOO/>\n".toList
      ['<' :: "zodb Foo/>".toList, '<' :: "zodb fOO/>".toList] :=
    ⟨.inl (by decide +kernel), by decide +kernel⟩
  have twice : List.Forall₂ RecasedLine ['<' :: "zodb Foo/>".toList, '<' :: "zodb Foo/>".toList]
      ['<' :: "zodb Foo/>".toList, '<' :: "zodb fOO/>".toList] :=
    .cons (.same _) (.cons (.tag (by decide +kernel)) .nil)
  exact ⟨mixed, (same.1 _).mp mixed, refused,
    ((parse_letterCase takenTwice takenOther twice).2 _ _).mp refused⟩

end StoreTopology

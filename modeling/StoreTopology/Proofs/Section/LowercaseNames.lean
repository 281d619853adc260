/-
**The lowercase of a name is a name.**

* `Text.contains_lowerChar`: a class of characters is kept by lowercasing if the table of letters
  leads into its ranges; word characters are such a class (`Text.isWordChar_lowerChar`);
* `Text.forall_mem_lowerAfter`: a class that lowercasing keeps is one of whole texts;
* `Line.isOwnName_lowercased`, `Line.isOwnSectionName_lowercased`: what is read as a name can be
  written in lowercase.
-/

import StoreTopology.Proofs.Section.WrittenLine

namespace StoreTopology

namespace Text

/-! ### Classes that lowercasing keeps -/

/-- A stretch of code points lies in one of the ranges. -/
def CodeRanges.hold (ranges : CodeRanges) (first last : Nat) : Bool :=
  ranges.ranges.any fun range => bif Nat.ble last range.2 then Nat.ble range.1 first else false

theorem CodeRanges.hold_iff {ranges : CodeRanges} {first last : Nat} :
    ranges.hold first last = true ↔ ∃ range ∈ ranges.ranges, range.1 ≤ first ∧ last ≤ range.2 := by
  simp [CodeRanges.hold, and_comm]

/-- Letters of the ranges have their lowercase in the ranges: the run leads into one of these, or
it has none of their letters, or each letter of theirs stays by itself. -/
def LowerRun.keeps (ranges : CodeRanges) (run : LowerRun) : Bool :=
  ranges.hold run.target (run.target + (run.last - run.first)) ||
  CodeRanges.apart [(run.first, run.last)] ranges.ranges ||
  (List.range (run.last - run.first + 1)).all fun offset =>
    offset % run.step != 0 || !ranges.hold (run.first + offset) (run.first + offset) ||
      ranges.hold (run.target + offset) (run.target + offset)

theorem LowerRun.contains_of_keeps {ranges : CodeRanges} {run : LowerRun}
    (keeps : run.keeps ranges = true) {offset : Nat} (inside : run.first + offset ≤ run.last)
    (stepped : offset % run.step = 0) (isLetter : ranges.contains (run.first + offset) = true) :
    ranges.contains (run.target + offset) = true := by
  simp only [LowerRun.keeps, Bool.or_eq_true] at keeps
  rcases keeps with (oneRange | noLetter) | eachLetter
  · obtain ⟨range, present, below, above⟩ := CodeRanges.hold_iff.mp oneRange
    exact CodeRanges.contains_iff.mpr ⟨range, present, by omega, by omega⟩
  · have notLetter := CodeRanges.not_contains_of_apart_single noLetter
      (Nat.le_add_right run.first offset) inside
    rw [isLetter] at notLetter
    cases notLetter
  · rw [CodeRanges.contains_iff] at isLetter ⊢
    have inRange := List.mem_range.mpr (Nat.lt_succ_of_le (Nat.le_sub_of_add_le' inside))
    have here := List.all_eq_true.mp eachLetter offset inRange
    rw [CodeRanges.hold_iff.mpr isLetter] at here
    exact CodeRanges.hold_iff.mp (by simpa [stepped] using here)

theorem contains_lowerChar {ranges : CodeRanges}
    (keeps : lowerRuns.all (LowerRun.keeps ranges) = true) {c : Char}
    (isLetter : ranges.contains c.toNat = true) : ranges.contains (lowerChar c).toNat = true := by
  cases found : findLowerRun c.toNat lowerRuns with
  | none =>
    rw [lowerChar, found]
    exact isLetter
  | some run =>
    obtain ⟨present, inside, stepped, above⟩ := findLowerRun_some found
    rw [toNat_lowerChar found]
    refine LowerRun.contains_of_keeps (List.all_eq_true.mp keeps run present) (by omega) stepped ?_
    rw [Nat.add_sub_cancel' above]
    exact isLetter

theorem isWordChar_lowerChar {c : Char} (isWord : isWordChar c = true) :
    isWordChar (lowerChar c) = true :=
  contains_lowerChar (by decide +kernel) isWord

/-- No lowercase is one of the code points, unless the letter is. -/
theorem not_contains_lowerChar {ranges : CodeRanges}
    (avoids : (lowerRuns.all fun run =>
      CodeRanges.apart [(run.target, run.target + (run.last - run.first))] ranges.ranges) = true)
    {c : Char} (isOther : ranges.contains c.toNat = false) :
    ranges.contains (lowerChar c).toNat = false := by
  cases found : findLowerRun c.toNat lowerRuns with
  | none =>
    rw [lowerChar, found]
    exact isOther
  | some run =>
    obtain ⟨present, inside, stepped, above⟩ := findLowerRun_some found
    rw [toNat_lowerChar found]
    exact CodeRanges.not_contains_of_apart_single (List.all_eq_true.mp avoids run present)
      (Nat.le_add_right _ _) (Nat.add_le_add_left (by omega) _)

theorem isBlank_lowerChar {c : Char} (notBlank : isBlank c = false) :
    isBlank (lowerChar c) = false :=
  not_contains_lowerChar (by decide) notBlank

/-- A mark before the small letters is the lowercase of no letter. -/
theorem lowerChar_ne {mark : Char} (small : mark.toNat < 'a'.toNat) {c : Char}
    (notMark : c ≠ mark) : lowerChar c ≠ mark := by
  have targets : (lowerRuns.all fun run => Nat.ble 'a'.toNat run.target) = true := by
    decide
  cases found : findLowerRun c.toNat lowerRuns with
  | none => rwa [lowerChar, found]
  | some run =>
    have above := List.all_eq_true.mp targets run (findLowerRun_some found).1
    rintro rfl
    rw [toNat_lowerChar found] at small
    rw [Nat.ble_eq] at above
    omega

/-! ### Whole texts -/

theorem lowerAt_ne_nil (before : List Char) (c : Char) (after : List Char) :
    lowerAt before c after ≠ [] := by
  unfold lowerAt
  split
  · exact List.cons_ne_nil _ _
  · split
    · split
      · exact List.cons_ne_nil _ _
      · exact List.cons_ne_nil _ _
    · exact List.cons_ne_nil _ _

/-- What the lowercase of a single letter keeps is kept where two letters are special too. -/
theorem forall_mem_lowerAt (p : Char → Bool) (keeps : ∀ c, p c = true → p (lowerChar c) = true)
    (special : ∀ c ∈ ['i', '\u0307', 'ς', 'σ'], p c = true) {before after : List Char} {c : Char}
    (passes : p c = true) : ∀ lower ∈ lowerAt before c after, p lower = true := by
  have four : p 'i' = true ∧ p '\u0307' = true ∧ p 'ς' = true ∧ p 'σ' = true := by
    simpa using special
  unfold lowerAt
  split
  · simp [four]
  · split
    · split
      · simp [four]
      · simp [four]
    · exact List.forall_mem_singleton.mpr (keeps c passes)

theorem forall_mem_lowerAfter (p : Char → Bool) (keeps : ∀ c, p c = true → p (lowerChar c) = true)
    (special : ∀ c ∈ ['i', '\u0307', 'ς', 'σ'], p c = true) {text : List Char}
    (all : ∀ c ∈ text, p c = true) (before : List Char) :
    ∀ lower ∈ lowerAfter before text, p lower = true := by
  induction text generalizing before with
  | nil => exact List.forall_mem_nil _
  | cons c rest ih =>
    obtain ⟨first, others⟩ := List.forall_mem_cons.mp all
    rw [lowerAfter]
    exact List.forall_mem_append.mpr ⟨forall_mem_lowerAt p keeps special first, ih others _⟩

theorem toList_lowercased (text : String) : (lowercased text).toList = lowercase text.toList := by
  rw [lowercased, String.toList_ofList]

end Text

open Text

namespace Line

/-! ### Names -/

theorem isNameStart_lowerChar {c : Char} (begins : isNameStart c = true) :
    isNameStart (lowerChar c) = true := by
  have ascii : ∀ code ∈ List.range 128, isNameStart (Char.ofNat code) = true →
      isNameStart (lowerChar (Char.ofNat code)) = true := by decide +kernel
  have small : c.toNat < 128 := by
    unfold isNameStart Char.isAlpha Char.isUpper Char.isLower at begins
    simp only [Bool.or_eq_true, Bool.and_eq_true, decide_eq_true_eq] at begins
    rcases begins with (⟨_, above⟩ | ⟨_, above⟩) | rfl
    · exact Nat.lt_of_le_of_lt (UInt32.le_iff_toNat_le.mp above) (by decide)
    · exact Nat.lt_of_le_of_lt (UInt32.le_iff_toNat_le.mp above) (by decide)
    · decide
  have same := ascii c.toNat (List.mem_range.mpr small)
  rw [Char.ofNat_toNat] at same
  exact same begins

theorem isDefinableStart_of_isNameStart {c : Char} (begins : isNameStart c = true) :
    isDefinableStart c = true := by
  rw [isDefinableStart, begins]
  rfl

theorem isDefinableStart_lowerChar {c : Char} (begins : isDefinableStart c = true) :
    isDefinableStart (lowerChar c) = true := by
  unfold isDefinableStart at begins
  simp only [Bool.or_eq_true, decide_eq_true_eq] at begins
  rcases begins with (isStart | rfl) | rfl
  · exact isDefinableStart_of_isNameStart (isNameStart_lowerChar isStart)
  · decide +kernel
  · decide +kernel

/-- The first letter of a name has its lowercase by itself. -/
theorem lowercase_cons {c : Char} (begins : isDefinableStart c = true) (rest : List Char) :
    lowercase (c :: rest) = lowerChar c :: lowerAfter [c] rest := by
  have notDotted : c ≠ 'İ' := by
    rintro rfl
    exact absurd begins (by decide)
  have notSigma : c ≠ 'Σ' := by
    rintro rfl
    exact absurd begins (by decide)
  rw [lowercase, lowerAfter, lowerAt, if_neg notDotted, if_neg notSigma]
  rfl

theorem isNameChar_lowerChar {c : Char} (isChar : isNameChar c = true) :
    isNameChar (lowerChar c) = true := by
  unfold isNameChar at isChar
  simp only [Bool.or_eq_true, decide_eq_true_eq] at isChar
  rcases isChar with (isWord | rfl) | rfl
  · rw [isNameChar, isWordChar_lowerChar isWord]
    rfl
  · decide
  · decide

theorem isSectionNameChar_lowerChar {c : Char} (isChar : isSectionNameChar c = true) :
    isSectionNameChar (lowerChar c) = true := by
  unfold isSectionNameChar at isChar ⊢
  simp only [Bool.and_eq_true, Bool.not_eq_true', decide_eq_true_eq] at isChar ⊢
  obtain ⟨⟨notBlank, notSlash⟩, notBracket⟩ := isChar
  exact ⟨⟨isBlank_lowerChar notBlank, lowerChar_ne (by decide) notSlash⟩,
    lowerChar_ne (by decide) notBracket⟩

/-- A text that is a name is one in lowercase. -/
theorem isOwnName_lowercased {text : String} (isName : isName text.toList = true) :
    IsOwnName (lowercased text) where
  isName := by
    obtain ⟨c, rest, spelled, begins, goesOn⟩ := isName_iff.mp isName
    rw [toList_lowercased, spelled, lowercase_cons (isDefinableStart_of_isNameStart begins)]
    exact isName_iff.mpr ⟨_, _, rfl, isNameStart_lowerChar begins,
      forall_mem_lowerAfter isNameChar (fun _ => isNameChar_lowerChar)
        (List.all_eq_true.mp (by decide)) goesOn [c]⟩
  isLower := lowercased_lowercased text

/-- A text that may stand as a section name may do so in lowercase. -/
theorem isOwnSectionName_lowercased {text : String} (notEmpty : text.toList ≠ [])
    (characters : ∀ c ∈ text.toList, isSectionNameChar c = true) :
    IsOwnSectionName (lowercased text) where
  notEmpty := by
    obtain ⟨c, rest, spelled⟩ := List.exists_cons_of_ne_nil notEmpty
    rw [toList_lowercased, spelled, lowercase, lowerAfter]
    exact List.append_ne_nil_of_left_ne_nil (lowerAt_ne_nil [] c rest) _
  isLower := lowercased_lowercased text
  characters := by
    rw [toList_lowercased]
    exact forall_mem_lowerAfter isSectionNameChar (fun _ => isSectionNameChar_lowerChar)
      (List.all_eq_true.mp (by decide)) characters []

end Line

end StoreTopology

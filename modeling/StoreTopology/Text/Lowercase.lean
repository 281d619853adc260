/-
**Lowercase of a text.**

Every letter is replaced by its lowercase. Two letters need more than a table of single
characters: the capital I with a dot becomes an i followed by a combining dot, and the capital
sigma becomes the final sigma at the end of a word, which is told by its neighbours. A word is
looked at past the characters that case detection skips.

* `lowercase_lowercase`: lowercasing twice changes nothing more.
-/

import StoreTopology.Text.CaseTable

namespace StoreTopology.Text

/-! ### Single letters -/

/-- The run that holds a code point. -/
def findLowerRun (code : Nat) : List LowerRun → Option LowerRun
  | [] => none
  | run :: rest =>
    if code < run.first then none
    else if code ≤ run.last && (code - run.first) % run.step = 0 then some run
    else findLowerRun code rest

/-- The lowercase of a letter that has one of a single character, else the letter itself. -/
def lowerChar (c : Char) : Char :=
  match findLowerRun c.toNat lowerRuns with
  | some run => Char.ofNat (run.target + (c.toNat - run.first))
  | none => c

/-! ### Words -/

def isCased (c : Char) : Bool := casedRanges.contains c.toNat

def isCaseIgnorable (c : Char) : Bool := caseIgnorableRanges.contains c.toNat

/-- The first character that counts for case is a cased one. -/
def meetsCased (text : List Char) : Bool :=
  match text.dropWhile isCaseIgnorable with
  | [] => false
  | c :: _ => isCased c

/-- A position is the end of a word if a cased letter stands before it and none after it. The text
before is given from the position backwards. -/
def endsWord (before after : List Char) : Bool := meetsCased before && !meetsCased after

/-- The lowercase of one character between the text before it, backwards, and the text after. -/
def lowerAt (before : List Char) (c : Char) (after : List Char) : List Char :=
  if c = 'İ' then ['i', '\u0307']
  else if c = 'Σ' then if endsWord before after then ['ς'] else ['σ']
  else [lowerChar c]

/-- The lowercase of the rest of a text, given the text before it backwards. -/
def lowerAfter (before : List Char) : List Char → List Char
  | [] => []
  | c :: after => lowerAt before c after ++ lowerAfter (c :: before) after

/-- The lowercase of a text. -/
def lowercase (text : List Char) : List Char := lowerAfter [] text

/-- The lowercase of a string. -/
def lowercased (text : String) : String := String.ofList (lowercase text.toList)

/-! ### Lowercasing twice -/

/-- A character that lowercasing keeps wherever it stands. -/
def IsLower (c : Char) : Prop := ∀ before after, lowerAt before c after = [c]

theorem lowerAfter_of_isLower {text : List Char} (lower : ∀ c ∈ text, IsLower c)
    (before : List Char) : lowerAfter before text = text := by
  induction text generalizing before with
  | nil => rfl
  | cons c rest ih =>
    rw [lowerAfter, lower c List.mem_cons_self,
      ih fun other present => lower other (List.mem_cons_of_mem _ present)]
    rfl

/-- No lowercase that the run gives is a letter of the other run: the two stretches lie apart, or
both have every second code point and their parities differ. -/
def LowerRun.misses (run other : LowerRun) : Bool :=
  Nat.blt (run.target + (run.last - run.first)) other.first || Nat.blt other.last run.target ||
    (Nat.beq run.step 2 && Nat.beq other.step 2 && Nat.beq ((run.target + other.first) % 2) 1)

/-- The capital I with a dot as a run of its own. -/
def dottedRun : LowerRun := ⟨0x130, 0x130, 1, 0x130⟩

/-- Every lowercase that a run gives is a character, and is mapped no further. -/
def LowerRun.isStable (run : LowerRun) : Bool :=
  (Nat.blt (run.target + (run.last - run.first)) 0xD800 ||
    (Nat.blt 0xDFFF run.target && Nat.blt (run.target + (run.last - run.first)) 0x110000)) &&
  run.misses dottedRun && lowerRuns.all run.misses

theorem lowerRuns_stable : lowerRuns.all LowerRun.isStable = true := by decide +kernel

theorem LowerRun.misses_sound {run other : LowerRun} (misses : run.misses other = true)
    {offset : Nat} (inside : offset ≤ run.last - run.first) (stepped : offset % run.step = 0)
    (otherBelow : other.first ≤ run.target + offset)
    (otherAbove : run.target + offset ≤ other.last)
    (otherStepped : (run.target + offset - other.first) % other.step = 0) : False := by
  simp only [LowerRun.misses, Bool.or_eq_true, Bool.and_eq_true, Nat.blt_eq, Nat.beq_eq] at misses
  rcases misses with (apart | apart) | ⟨⟨halfStep, otherHalfStep⟩, parity⟩
  · omega
  · omega
  · rw [halfStep] at stepped
    rw [otherHalfStep] at otherStepped
    omega

theorem findLowerRun_some {code : Nat} {runs : List LowerRun} {run : LowerRun}
    (found : findLowerRun code runs = some run) :
    run ∈ runs ∧ code ≤ run.last ∧ (code - run.first) % run.step = 0 ∧ run.first ≤ code := by
  induction runs with
  | nil => simp [findLowerRun] at found
  | cons head rest ih =>
    rw [findLowerRun] at found
    split at found
    · simp at found
    · next notBelow =>
      split at found
      · next inside =>
        simp only [Option.some.injEq] at found
        subst found
        simp only [Bool.and_eq_true, decide_eq_true_eq] at inside
        exact ⟨List.mem_cons_self, inside.1, inside.2, Nat.le_of_not_lt notBelow⟩
      · obtain ⟨present, facts⟩ := ih found
        exact ⟨List.mem_cons_of_mem _ present, facts⟩

theorem isLower_of_unmapped {c : Char} (notDotted : c ≠ 'İ') (notSigma : c ≠ 'Σ')
    (unmapped : findLowerRun c.toNat lowerRuns = none) : IsLower c := by
  intro before after
  rw [lowerAt, if_neg notDotted, if_neg notSigma, lowerChar, unmapped]

/-- The lowercase of a letter of a run stands where the run says. -/
theorem toNat_lowerChar {c : Char} {run : LowerRun}
    (found : findLowerRun c.toNat lowerRuns = some run) :
    (lowerChar c).toNat = run.target + (c.toNat - run.first) := by
  obtain ⟨present, inside, _, _⟩ := findLowerRun_some found
  have stable := List.all_eq_true.mp lowerRuns_stable run present
  simp only [LowerRun.isStable, Bool.and_eq_true, Bool.or_eq_true, Nat.blt_eq] at stable
  have valid : (run.target + (c.toNat - run.first)).isValidChar := by
    rw [Nat.isValidChar]
    omega
  rw [lowerChar, found]
  dsimp only
  rw [Char.ofNat, dif_pos valid]
  rfl

theorem isLower_lowerChar {c : Char} (notDotted : c ≠ 'İ') (notSigma : c ≠ 'Σ') :
    IsLower (lowerChar c) := by
  cases found : findLowerRun c.toNat lowerRuns with
  | none =>
    rw [lowerChar, found]
    exact isLower_of_unmapped notDotted notSigma found
  | some run =>
    have image := toNat_lowerChar found
    obtain ⟨present, inside, stepped, above⟩ := findLowerRun_some found
    have stable := List.all_eq_true.mp lowerRuns_stable run present
    simp only [LowerRun.isStable, Bool.and_eq_true, List.all_eq_true] at stable
    obtain ⟨⟨_, missesDotted⟩, missesAll⟩ := stable
    have offset : c.toNat - run.first ≤ run.last - run.first := by omega
    have unmapped : findLowerRun (lowerChar c).toNat lowerRuns = none := by
      rw [image]
      cases again : findLowerRun (run.target + (c.toNat - run.first)) lowerRuns with
      | none => rfl
      | some other =>
        obtain ⟨otherPresent, otherAbove, otherStepped, otherBelow⟩ := findLowerRun_some again
        exact (LowerRun.misses_sound (missesAll other otherPresent) offset stepped otherBelow
          otherAbove otherStepped).elim
    refine isLower_of_unmapped (fun same => ?_) (fun same => ?_) unmapped
    · rw [same] at image
      have code : run.target + (c.toNat - run.first) = 0x130 := image.symm
      exact LowerRun.misses_sound missesDotted offset stepped (by simp [dottedRun, code])
        (by simp [dottedRun, code]) (by simp [dottedRun, code])
    · rw [same] at unmapped
      exact absurd unmapped (by decide +kernel)

theorem isLower_of_mem_lowerAt {before after : List Char} {c lower : Char}
    (present : lower ∈ lowerAt before c after) : IsLower lower := by
  rw [lowerAt] at present
  split at present
  · rcases List.mem_cons.mp present with rfl | present
    · exact isLower_of_unmapped (by decide) (by decide) (by decide +kernel)
    · rw [List.mem_singleton] at present
      subst present
      exact isLower_of_unmapped (by decide) (by decide) (by decide +kernel)
  · next notDotted =>
    split at present
    · split at present <;>
      · rw [List.mem_singleton] at present
        subst present
        exact isLower_of_unmapped (by decide) (by decide) (by decide +kernel)
    · next notSigma =>
      rw [List.mem_singleton] at present
      subst present
      exact isLower_lowerChar notDotted notSigma

theorem isLower_of_mem_lowerAfter {before text : List Char} {lower : Char}
    (present : lower ∈ lowerAfter before text) : IsLower lower := by
  induction text generalizing before with
  | nil => simp [lowerAfter] at present
  | cons c rest ih =>
    rw [lowerAfter, List.mem_append] at present
    rcases present with here | later
    · exact isLower_of_mem_lowerAt here
    · exact ih later

/-- Lowercasing twice changes nothing more. -/
@[simp] theorem lowercase_lowercase (text : List Char) :
    lowercase (lowercase text) = lowercase text :=
  lowerAfter_of_isLower (fun _ present => isLower_of_mem_lowerAfter present) []

@[simp] theorem lowercased_lowercased (text : String) :
    lowercased (lowercased text) = lowercased text := by
  simp [lowercased]

end StoreTopology.Text

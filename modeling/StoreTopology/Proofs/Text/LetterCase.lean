/-
**The case of ASCII letters.**

* `fold`: a text with its ASCII letters made small, and `SameButCase`: two texts that differ in the
  case of such letters only;
* `apply_toLower`: a function of characters gives the same for a letter in either case, if it does
  so for the twenty-six capitals; the character classes of the language are such functions;
* `takeWhile_fold`, `dropWhile_fold`, `trim_fold`: cutting a text does not depend on the case of its
  letters;
* `lowercase_fold`: neither does its lowercase, other letters next to them included.
-/

import StoreTopology.Proofs.Text.Cutting
import StoreTopology.Section.Token

namespace StoreTopology.Text

/-- The text with its ASCII letters made small. -/
def fold (text : List Char) : List Char := text.map Char.toLower

/-- The texts differ in the case of ASCII letters only. -/
def SameButCase (text other : List Char) : Prop := fold text = fold other

instance (text other : List Char) : Decidable (SameButCase text other) :=
  inferInstanceAs (Decidable (fold text = fold other))

namespace SameButCase

variable {text other : List Char}

theorem refl (text : List Char) : SameButCase text text := rfl

theorem symm (same : SameButCase text other) : SameButCase other text := Eq.symm same

theorem append {more others : List Char} (same : SameButCase text other)
    (later : SameButCase more others) : SameButCase (text ++ more) (other ++ others) := by
  unfold SameButCase fold at *
  rw [List.map_append, List.map_append, same, later]

end SameButCase

/-! ### Characters -/

theorem toLower_of_not_ascii {c : Char} (beyond : 128 ≤ c.toNat) : c.toLower = c := by
  unfold Char.toLower
  rw [dif_neg]
  rintro ⟨_, below⟩
  have isCapital : c.toNat ≤ 0x5A := below
  omega

/-- A function of characters gives the same for a letter in either case, if it does so for those of
ASCII. -/
theorem apply_toLower {α : Type} {f : Char → α}
    (same : ∀ code ∈ List.range 128, f (Char.ofNat code).toLower = f (Char.ofNat code))
    (c : Char) : f c.toLower = f c := by
  by_cases ascii : c.toNat < 128
  · have equal := same c.toNat (List.mem_range.mpr ascii)
    rwa [Char.ofNat_toNat] at equal
  · rw [toLower_of_not_ascii (Nat.le_of_not_lt ascii)]

theorem isBlank_toLower (c : Char) : isBlank c.toLower = isBlank c :=
  apply_toLower (by decide +kernel) c

theorem isWordChar_toLower (c : Char) : isWordChar c.toLower = isWordChar c :=
  apply_toLower (by decide +kernel) c

theorem isCased_toLower (c : Char) : isCased c.toLower = isCased c :=
  apply_toLower (by decide +kernel) c

theorem isCaseIgnorable_toLower (c : Char) : isCaseIgnorable c.toLower = isCaseIgnorable c :=
  apply_toLower (by decide +kernel) c

theorem lowerChar_toLower (c : Char) : lowerChar c.toLower = lowerChar c :=
  apply_toLower (by decide +kernel) c

theorem isAlpha_toLower (c : Char) : c.toLower.isAlpha = c.isAlpha :=
  apply_toLower (by decide +kernel) c

/-- A character that is no ASCII letter is told from all others in either case. -/
theorem toLower_eq_iff {mark : Char} (noLetter : mark.isAlpha = false) (c : Char) :
    c.toLower = mark ↔ c = mark := by
  have stays : ∀ d : Char, d.isAlpha = false → d.toLower = d := by
    intro d other
    unfold Char.toLower
    rw [dif_neg]
    intro capital
    have isUpper : d.isUpper = true := decide_eq_true capital
    unfold Char.isAlpha at other
    rw [isUpper, Bool.true_or] at other
    cases other
  constructor
  · intro isMark
    have other : c.isAlpha = false := by rw [← isAlpha_toLower, isMark, noLetter]
    rw [← stays c other, isMark]
  · rintro rfl
    exact stays c noLetter

/-- A text without ASCII letters is told from all others in either case. -/
theorem fold_eq_iff {marks : List Char} (noLetters : ∀ mark ∈ marks, mark.isAlpha = false)
    {text : List Char} : fold text = marks ↔ text = marks := by
  induction marks generalizing text with
  | nil => exact List.map_eq_nil_iff
  | cons mark rest ih =>
    obtain ⟨first, later⟩ := List.forall_mem_cons.mp noLetters
    cases text with
    | nil => exact Iff.intro nofun nofun
    | cons c others =>
      show c.toLower :: fold others = _ ↔ _
      rw [List.cons.injEq, List.cons.injEq, toLower_eq_iff first, ih later]

/-! ### Cutting -/

section Cutting

variable {p : Char → Bool}

theorem takeWhile_fold (keeps : ∀ c, p c.toLower = p c) (text : List Char) :
    (fold text).takeWhile p = fold (text.takeWhile p) := by
  unfold fold
  rw [List.takeWhile_map, show p ∘ Char.toLower = p from funext keeps]

theorem dropWhile_fold (keeps : ∀ c, p c.toLower = p c) (text : List Char) :
    (fold text).dropWhile p = fold (text.dropWhile p) := by
  unfold fold
  rw [List.dropWhile_map, show p ∘ Char.toLower = p from funext keeps]

theorem any_head?_fold (keeps : ∀ c, p c.toLower = p c) (text : List Char) :
    (fold text).head?.any p = text.head?.any p := by
  cases text with
  | nil => rfl
  | cons c rest => exact keeps c

end Cutting

theorem reverse_fold (text : List Char) : (fold text).reverse = fold text.reverse := by
  rw [fold, fold, List.map_reverse]

theorem isEmpty_fold (text : List Char) : (fold text).isEmpty = text.isEmpty := by
  rw [fold, List.isEmpty_map]

theorem trimStart_fold (text : List Char) : trimStart (fold text) = fold (trimStart text) :=
  dropWhile_fold isBlank_toLower text

theorem trimEnd_fold (text : List Char) : trimEnd (fold text) = fold (trimEnd text) := by
  rw [trimEnd, reverse_fold, dropWhile_fold isBlank_toLower, reverse_fold, trimEnd]

theorem trim_fold (text : List Char) : trim (fold text) = fold (trim text) := by
  rw [trim, trimStart_fold, trimEnd_fold, trim]

/-! ### Texts that differ in case only -/

namespace SameButCase

variable {p : Char → Bool} {text other : List Char}

theorem reverse (same : SameButCase text other) : SameButCase text.reverse other.reverse := by
  unfold SameButCase at *
  rw [← reverse_fold, ← reverse_fold, same]

theorem trim (same : SameButCase text other) : SameButCase (trim text) (trim other) := by
  unfold SameButCase at *
  rw [← trim_fold, ← trim_fold, same]

/-- A text that begins with a character has the same one at the beginning but for its case. -/
theorem exists_cons {c : Char} {rest : List Char} (same : SameButCase (c :: rest) other) :
    ∃ d later, other = d :: later ∧ c.toLower = d.toLower ∧ SameButCase rest later := by
  obtain ⟨d, later, split, first, others⟩ := List.map_eq_cons_iff.mp (Eq.symm same)
  exact ⟨d, later, split, first.symm, Eq.symm others⟩

theorem eq_nil_iff (same : SameButCase text other) : text = [] ↔ other = [] := by
  have empty := congrArg List.isEmpty same
  rw [isEmpty_fold, isEmpty_fold] at empty
  rw [← List.isEmpty_iff, empty, List.isEmpty_iff]

theorem forall_mem (keeps : ∀ c, p c.toLower = p c) (same : SameButCase text other)
    (passes : ∀ c ∈ text, p c = true) : ∀ c ∈ other, p c = true := by
  intro c present
  have found : c.toLower ∈ fold text := same ▸ List.mem_map_of_mem present
  obtain ⟨own, isOwn, alike⟩ := List.mem_map.mp found
  rw [← keeps c, ← alike, keeps own]
  exact passes own isOwn

theorem head? (keeps : ∀ c, p c.toLower = p c) (same : SameButCase text other)
    (stops : ∀ c ∈ text.head?, p c = false) : ∀ c ∈ other.head?, p c = false := by
  intro c first
  cases text with
  | nil =>
    cases same.eq_nil_iff.mp rfl
    cases first
  | cons own rest =>
    obtain ⟨d, later, rfl, alike, _⟩ := same.exists_cons
    cases first
    rw [← keeps c, ← alike, keeps own]
    exact stops own rfl

theorem notMem {mark : Char} (noLetter : mark.isAlpha = false) (same : SameButCase text other)
    (apart : mark ∉ text) : mark ∉ other := by
  intro present
  have found : mark.toLower ∈ fold text := same ▸ List.mem_map_of_mem present
  rw [(toLower_eq_iff noLetter mark).mpr rfl] at found
  obtain ⟨own, isOwn, isMark⟩ := List.mem_map.mp found
  exact apart ((toLower_eq_iff noLetter own).mp isMark ▸ isOwn)

theorem trimmed (same : SameButCase text other) (isTrimmed : Trimmed text) : Trimmed other := by
  refine ⟨same.head? isBlank_toLower isTrimmed.1, ?_⟩
  have last := isTrimmed.2
  rw [← List.head?_reverse] at last ⊢
  exact same.reverse.head? isBlank_toLower last

end SameButCase

/-! ### Lowercase -/

theorem meetsCased_fold (text : List Char) : meetsCased (fold text) = meetsCased text := by
  unfold meetsCased
  rw [dropWhile_fold isCaseIgnorable_toLower]
  cases text.dropWhile isCaseIgnorable with
  | nil => rfl
  | cons c rest => exact isCased_toLower c

/-- The lowercase of one character does not depend on the case of ASCII letters, be it one of them or
stand among them. -/
theorem lowerAt_fold (before : List Char) (c : Char) (after : List Char) :
    lowerAt (fold before) c.toLower (fold after) = lowerAt before c after := by
  have dotted : c.toLower = 'İ' ↔ c = 'İ' := toLower_eq_iff (by decide) c
  have sigma : c.toLower = 'Σ' ↔ c = 'Σ' := toLower_eq_iff (by decide) c
  unfold lowerAt endsWord
  rw [meetsCased_fold, meetsCased_fold, lowerChar_toLower]
  simp only [dotted, sigma]

theorem lowerAfter_fold (before text : List Char) :
    lowerAfter (fold before) (fold text) = lowerAfter before text := by
  induction text generalizing before with
  | nil => rfl
  | cons c rest ih =>
    show lowerAt (fold before) c.toLower (fold rest) ++
      lowerAfter (fold (c :: before)) (fold rest) = _
    rw [lowerAt_fold, ih, lowerAfter]

/-- The lowercase of a text does not depend on the case of its ASCII letters. -/
theorem lowercase_fold (text : List Char) : lowercase (fold text) = lowercase text :=
  lowerAfter_fold [] text

theorem lowercased_fold (text : List Char) :
    lowercased (.ofList (fold text)) = lowercased (.ofList text) := by
  rw [lowercased, lowercased, String.toList_ofList, String.toList_ofList, lowercase_fold]

theorem SameButCase.lowercased_eq {text other : List Char} (same : SameButCase text other) :
    lowercased (.ofList text) = lowercased (.ofList other) := by
  rw [← lowercased_fold text, same, lowercased_fold]

end StoreTopology.Text

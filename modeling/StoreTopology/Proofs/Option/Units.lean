/-
**Units of size and time.**

A unit is a word of a table, in any case: its letters are compared by simple case folding, where the
Kelvin sign is a k and the long s is an s.

* `Coercion.IsUnit`: a text is a unit of a table and stands for a factor;
* `Coercion.sizeUnit?_eq_some_iff`, `timeUnit?_eq_some_iff`: the units that are read are those of the
  tables, but for the long s (`timeUnit?_longS`);
* `Coercion.readUnits?_append`, `exists_append_of_readUnits?`: the numbers of units that are read.
-/

import Mathlib.Data.List.Forall2
import StoreTopology.Proofs.Option.Numerals
import StoreTopology.Proofs.Text.LetterCase

namespace StoreTopology.Coercion

open Text

/-! ### Units -/

/-- The letters that are a small ASCII letter by simple case folding. -/
def spellings : Char → List Char
  | 'k' => ['k', 'K', '\u212a']
  | 's' => ['s', 'S', '\u017f']
  | letter => [letter, letter.toUpper]

/-- Units of size with the bytes that they stand for. The unit may be missing. -/
def sizeFactors : List (List Char × Nat) :=
  [([], 1), (['k', 'b'], 2 ^ 10), (['m', 'b'], 2 ^ 20), (['g', 'b'], 2 ^ 30)]

/-- Units of time with the seconds that they stand for. The unit may be missing. -/
def timeFactors : List (List Char × Nat) :=
  [([], 1), (['s'], 1), (['m'], 60), (['h'], 3600), (['d'], 86400)]

/-- The text is a unit of the table, in any case, and stands for the factor. -/
def IsUnit (factors : List (List Char × Nat)) (text : List Char) (factor : Nat) : Prop :=
  ∃ unit, (unit, factor) ∈ factors ∧ List.Forall₂ (fun c letter => c ∈ spellings letter) text unit

/-- The letters of all units. -/
def unitLetters : List Char := ['k', 'm', 'g', 'b', 's', 'h', 'd']

/-- A letter is folded to that of a unit if it is one of its spellings. -/
theorem foldLetter_eq_iff {letter : Char} (ofUnit : letter ∈ unitLetters) (c : Char) :
    foldLetter c = letter ↔ c ∈ spellings letter := by
  -- `List.all` runs over the listed letters. A quantifier bounded by a list of characters may also be
  -- decided over all characters, which never ends.
  by_cases ascii : c.toNat < 128
  · have all : (unitLetters.all fun letter => (List.range 128).all fun code => decide
        (foldLetter (Char.ofNat code) = letter ↔ Char.ofNat code ∈ spellings letter)) = true := by
      decide +kernel
    simp only [List.all_eq_true, decide_eq_true_eq] at all
    have same := all letter ofUnit c.toNat (List.mem_range.mpr ascii)
    rwa [Char.ofNat_toNat] at same
  · by_cases special : c = '\u212a' ∨ c = '\u017f'
    · have all : (unitLetters.all fun letter => ['\u212a', '\u017f'].all fun c => decide
          (foldLetter c = letter ↔ c ∈ spellings letter)) = true := by
        decide
      simp only [List.all_eq_true, decide_eq_true_eq] at all
      exact all letter ofUnit c (by simpa using special)
    · -- All other characters beyond the ASCII range are folded to themselves.
      rw [not_or] at special
      have stays : foldLetter c = c := by
        unfold foldLetter
        rw [if_neg special.1, if_neg special.2, toLower_of_not_ascii (Nat.le_of_not_lt ascii)]
      have others : (unitLetters.all fun letter => decide (letter.toNat < 128) &&
          (spellings letter).all fun d => decide
            (d.toNat < 128 ∨ d = '\u212a' ∨ d = '\u017f')) = true := by
        decide
      simp only [List.all_eq_true, Bool.and_eq_true, decide_eq_true_eq] at others
      obtain ⟨letterAscii, spelled⟩ := others letter ofUnit
      rw [stays]
      constructor
      · rintro rfl
        exact absurd letterAscii ascii
      · intro present
        rcases spelled c present with isAscii | isSpecial
        · exact absurd isAscii ascii
        · exact absurd isSpecial (not_or.mpr special)

theorem map_foldLetter_eq_iff {unit : List Char} (ofUnits : unit ⊆ unitLetters)
    {text : List Char} :
    text.map foldLetter = unit ↔ List.Forall₂ (fun c letter => c ∈ spellings letter) text unit := by
  induction unit generalizing text with
  | nil => rw [List.map_eq_nil_iff, List.forall₂_nil_right_iff]
  | cons letter rest ih =>
    obtain ⟨ofUnit, others⟩ := List.cons_subset.mp ofUnits
    cases text with
    | nil => exact Iff.intro nofun nofun
    | cons c text =>
      rw [List.map_cons, List.cons.injEq, List.forall₂_cons, foldLetter_eq_iff ofUnit, ih others]

/-- A text is a unit of a table if it is folded to one. -/
theorem isUnit_iff {factors : List (List Char × Nat)}
    (ofUnits : ∀ entry ∈ factors, entry.1 ⊆ unitLetters) {text : List Char}
    {factor : Nat} : IsUnit factors text factor ↔ (text.map foldLetter, factor) ∈ factors := by
  constructor
  · rintro ⟨unit, listed, spelled⟩
    rwa [(map_foldLetter_eq_iff (ofUnits _ listed)).mpr spelled]
  · intro listed
    exact ⟨_, listed, (map_foldLetter_eq_iff (ofUnits _ listed)).mp rfl⟩

theorem sizeUnit?_eq_some_iff {text : List Char} {factor : Nat} :
    sizeUnit? text = some factor ↔ IsUnit sizeFactors text factor := by
  rw [isUnit_iff (by decide)]
  unfold sizeUnit? sizeFactors
  generalize text.map foldLetter = unit
  simp only [List.mem_cons, List.not_mem_nil, or_false, Prod.mk.injEq]
  split
  · simpa using eq_comm
  · simpa using eq_comm
  · simpa using eq_comm
  · simpa using eq_comm
  · next noUnit noKilo noMega noGiga =>
    refine ⟨nofun, ?_⟩
    rintro (⟨same, _⟩ | ⟨same, _⟩ | ⟨same, _⟩ | ⟨same, _⟩)
    · exact (noUnit same).elim
    · exact (noKilo same).elim
    · exact (noMega same).elim
    · exact (noGiga same).elim

/-- The long s is taken for a unit of days. -/
theorem timeUnit?_longS : timeUnit? ['\u017f'] = some 86400 := by decide

theorem timeUnit?_eq_some_iff {text : List Char} (noLongS : text ≠ ['\u017f']) {factor : Nat} :
    timeUnit? text = some factor ↔ IsUnit timeFactors text factor := by
  rw [isUnit_iff (by decide)]
  cases text with
  | nil => simp [timeUnit?, timeFactors, eq_comm]
  | cons letter rest =>
    cases rest with
    | cons second rest => simp [timeUnit?, timeFactors]
    | nil =>
      have notLong : letter ≠ '\u017f' := fun same => noLongS (by rw [same])
      unfold timeUnit?
      dsimp only
      by_cases isUnit : foldLetter letter ∈ ['s', 'm', 'h', 'd']
      · rw [if_pos isUnit]
        -- The spellings of the four letters, but for the long s, have the letters as their lowercase.
        have lower : lowerChar letter = foldLetter letter := by
          have all : (['s', 'm', 'h', 'd'].all fun unit => decide (unit ∈ unitLetters) &&
              (spellings unit).all fun c => decide
                (c = '\u017f' ∨ lowerChar c = unit)) = true := by
            decide
          simp only [List.all_eq_true, Bool.and_eq_true, decide_eq_true_eq] at all
          obtain ⟨ofUnit, spelled⟩ := all _ isUnit
          exact (spelled letter ((foldLetter_eq_iff ofUnit letter).mp rfl)).resolve_left notLong
        rw [lower, List.map_singleton]
        generalize foldLetter letter = unit at isUnit
        simp only [List.mem_cons, List.not_mem_nil, or_false] at isUnit
        rcases isUnit with rfl | rfl | rfl | rfl <;> simp [timeFactors, eq_comm]
      · rw [if_neg isUnit, List.map_singleton]
        simp only [List.mem_cons, List.not_mem_nil, or_false, not_or] at isUnit
        simp [timeFactors, isUnit]

/-! ### Numbers of units -/

theorem isDecimalDigit_of_isNumeral {digits : List Char} (numeral : IsNumeral 10 digits) :
    ∀ c ∈ digits, isDecimalDigit c = true := by
  intro c present
  obtain ⟨below, above⟩ := numeral.areDigits c present
  have ascii : (0x30, 0x39) ∈ digitRanges.ranges := by decide
  exact CodeRanges.contains_iff.mpr ⟨_, ascii, below, Nat.le_of_lt_succ above⟩

theorem isDecimalDigit_of_isBlank {c : Char} (blank : isBlank c = true) :
    isDecimalDigit c = false :=
  CodeRanges.not_contains_of_apart (by decide) blank

/-- No unit begins like what stands before it. -/
def BeginsApart (unit? : List Char → Option Nat) : Prop :=
  ∀ unit factor, unit? unit = some factor →
    ∀ c ∈ unit.head?, isBlank c = false ∧ isDecimalDigit c = false

theorem IsUnit.beginsApart {factors : List (List Char × Nat)}
    (ofUnits : ∀ entry ∈ factors, entry.1 ⊆ unitLetters) {text : List Char}
    {factor : Nat} (isUnit : IsUnit factors text factor) :
    ∀ c ∈ text.head?, isBlank c = false ∧ isDecimalDigit c = false := by
  have all : (unitLetters.all fun letter => (spellings letter).all fun c =>
      !isBlank c && !isDecimalDigit c) = true := by
    decide
  simp only [List.all_eq_true, Bool.and_eq_true, Bool.not_eq_true'] at all
  obtain ⟨unit, listed, spelled⟩ := isUnit
  cases spelled with
  | nil => exact nofun
  | cons isSpelling _ =>
    rintro _ ⟨⟩
    exact all _ (ofUnits _ listed List.mem_cons_self) _ isSpelling

theorem beginsApart_sizeUnit? : BeginsApart sizeUnit? :=
  fun _ _ found => (sizeUnit?_eq_some_iff.mp found).beginsApart (by decide)

theorem beginsApart_timeUnit? : BeginsApart timeUnit? := by
  intro unit factor found
  by_cases isLongS : unit = ['\u017f']
  · rw [isLongS]
    rintro _ ⟨⟩
    decide
  · exact ((timeUnit?_eq_some_iff isLongS).mp found).beginsApart (by decide)

/-- A numeral with a unit, blanks between them apart, is read as the product of number and unit, if
a word holds it. -/
theorem readUnits?_append {unit? : List Char → Option Nat} (begins : BeginsApart unit?)
    {digits gap unit : List Char} {factor : Nat} (numeral : IsNumeral 10 digits)
    (blank : ∀ c ∈ gap, isBlank c = true) (isUnit : unit? unit = some factor) :
    readUnits? unit? (digits ++ gap ++ unit) = toUInt64? (numeralValue 10 digits * factor) := by
  have first := begins unit factor isUnit
  have stop : ∀ c ∈ (gap ++ unit).head?, isDecimalDigit c = false := by
    cases gap with
    | nil => exact fun c isFirst => (first c isFirst).2
    | cons c rest =>
      rintro _ ⟨⟩
      exact isDecimalDigit_of_isBlank (blank c List.mem_cons_self)
  have number := takeWhile_append_of_stop (isDecimalDigit_of_isNumeral numeral) stop
  have rest := takeWhile_append_of_stop blank fun c isFirst => (first c isFirst).1
  unfold readUnits?
  rw [List.append_assoc, number.1, number.2, trimStart, rest.2, isUnit,
    readNat?_eq_some_iff.mpr ⟨numeral, rfl⟩]
  rfl

/-- Nothing else is read as a number of units. -/
theorem exists_append_of_readUnits? {unit? : List Char → Option Nat} {text : List Char}
    {word : UInt64} (read : readUnits? unit? text = some word) :
    ∃ digits gap unit factor, text = digits ++ gap ++ unit ∧ IsNumeral 10 digits ∧
      (∀ c ∈ gap, isBlank c = true) ∧ unit? unit = some factor := by
  unfold readUnits? at read
  simp only [Option.bind_eq_bind, Option.bind_eq_some_iff, readNat?_eq_some_iff] at read
  obtain ⟨factor, isUnit, _, ⟨numeral, rfl⟩, _⟩ := read
  refine ⟨_, (text.dropWhile isDecimalDigit).takeWhile isBlank, _, factor, ?_, numeral,
    List.all_eq_true.mp List.all_takeWhile, isUnit⟩
  rw [trimStart, List.append_assoc, List.takeWhile_append_dropWhile,
    List.takeWhile_append_dropWhile]

end StoreTopology.Coercion

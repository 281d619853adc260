/-
**Numerals and the words that hold their numbers.**

* `numeralValue`: the number that digits stand for, each of them counting for a power of the base;
* `Coercion.readNat?_eq_some_iff`: the decimal numerals are read as their numbers;
* `Coercion.toInt64?_exact`, `toUInt64?_exact`, `toUInt32?_exact`: the numbers that a word holds.
-/

import Mathlib.Data.List.Induction
import Mathlib.Data.Nat.Digits.Defs
import StoreTopology.Option.Coercion

namespace StoreTopology

open Text

/-! ### Numerals -/

/-- One or more digits of a base up to ten. -/
structure IsNumeral (base : Nat) (text : List Char) : Prop where
  notEmpty : text ≠ []
  areDigits : ∀ c ∈ text, '0'.toNat ≤ c.toNat ∧ c.toNat < '0'.toNat + base

/-- The number that digits stand for. The last of them counts for itself, and each one before it for
the next power of the base. -/
def numeralValue (base : Nat) (digits : List Char) : Nat :=
  Nat.ofDigits base (digits.reverse.map fun c => c.toNat - '0'.toNat)

/-- Adding up digits from the first one on gives their number. -/
theorem ofDigitChars_eq_numeralValue (base : Nat) (digits : List Char) :
    Nat.ofDigitChars base digits 0 = numeralValue base digits := by
  induction digits using List.reverseRecOn with
  | nil => rfl
  | append_singleton front last ih =>
    have step : numeralValue base (front ++ [last]) =
        (last.toNat - '0'.toNat) + base * numeralValue base front := by
      unfold numeralValue
      rw [List.reverse_append, List.reverse_singleton, List.singleton_append, List.map_cons,
        Nat.ofDigits_cons]
    rw [step, Nat.ofDigitChars_append, ih, Nat.ofDigitChars_cons, Nat.add_comm]
    rfl

namespace Coercion

variable {text : List Char}

theorem isNumeral_ten_iff :
    IsNumeral 10 text ↔ (!text.isEmpty && text.all Char.isDigit) = true := by
  have digit : ∀ c : Char, c.isDigit = true ↔ '0'.toNat ≤ c.toNat ∧ c.toNat < '0'.toNat + 10 := by
    intro c
    rw [Char.isDigit_iff_toNat]
    exact and_congr_right fun _ => Nat.lt_succ_iff.symm
  rw [Bool.and_eq_true, Bool.not_eq_true', List.isEmpty_eq_false_iff, List.all_eq_true]
  simp only [digit]
  exact ⟨fun numeral => ⟨numeral.notEmpty, numeral.areDigits⟩, fun both => ⟨both.1, both.2⟩⟩

theorem isNumeral_eight_iff :
    IsNumeral 8 text ↔ (!text.isEmpty && text.all isOctalDigit) = true := by
  have digit : ∀ c : Char, isOctalDigit c = true ↔
      '0'.toNat ≤ c.toNat ∧ c.toNat < '0'.toNat + 8 := by
    intro c
    unfold isOctalDigit
    rw [Bool.and_eq_true, decide_eq_true_eq, decide_eq_true_eq]
    exact and_congr_right fun _ => Nat.lt_succ_iff.symm
  rw [Bool.and_eq_true, Bool.not_eq_true', List.isEmpty_eq_false_iff, List.all_eq_true]
  simp only [digit]
  exact ⟨fun numeral => ⟨numeral.notEmpty, numeral.areDigits⟩, fun both => ⟨both.1, both.2⟩⟩

/-- A decimal numeral is read as its number, and nothing else is read. -/
theorem readNat?_eq_some_iff {number : Nat} :
    readNat? text = some number ↔ IsNumeral 10 text ∧ number = numeralValue 10 text := by
  unfold readNat?
  rw [isNumeral_ten_iff, ofDigitChars_eq_numeralValue]
  split
  · next isNumeral => simp [isNumeral, eq_comm]
  · next other => simp [other]

/-! ### Words -/

/-- Numbers that fit are put into words that hold them, and no others are. -/
structure PutsExactly {α β : Type} (put : α → Option β) (fits : α → Prop) (held : β → α) :
    Prop where
  holds : ∀ number, fits number → ∃ word, put number = some word ∧ held word = number
  overflows : ∀ number, ¬ fits number → put number = none

/-- A signed word holds the numbers from `-2 ^ 63` to below `2 ^ 63`. -/
theorem toInt64?_exact :
    PutsExactly toInt64? (fun number => -2 ^ 63 ≤ number ∧ number < 2 ^ 63) Int64.toInt where
  holds _ inRange := ⟨_, if_pos inRange, Int64.toInt_ofInt_of_le inRange.1 inRange.2⟩
  overflows _ outOfRange := if_neg outOfRange

/-- A word holds the numbers below `2 ^ 64`. -/
theorem toUInt64?_exact : PutsExactly toUInt64? (· < 2 ^ 64) UInt64.toNat where
  holds _ inRange := ⟨_, if_pos inRange, UInt64.toNat_ofNat_of_lt' inRange⟩
  overflows _ outOfRange := if_neg outOfRange

/-- A half word holds the numbers below `2 ^ 32`. -/
theorem toUInt32?_exact : PutsExactly toUInt32? (· < 2 ^ 32) UInt32.toNat where
  holds _ inRange := ⟨_, if_pos inRange, UInt32.toNat_ofNat_of_lt' inRange⟩
  overflows _ outOfRange := if_neg outOfRange

end Coercion

end StoreTopology

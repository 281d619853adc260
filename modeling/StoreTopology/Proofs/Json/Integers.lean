/-
**The text of an integer is read back.**

* `reads_digits`: from a state that a first digit turns into a number of that digit, the digits of a
  number lead to that number;
* `exists_reads_integer`: an integer of limited size is read back from its text, and is known to be
  whole at the next delimiter.
-/

import StoreTopology.Json.Printer
import StoreTopology.Proofs.Json.Reading
import StoreTopology.Proofs.Text.Encoding

namespace StoreTopology.JsonState

open Text

variable {limit : Nat} {frames : List JsonFrame}

/-! ### Digits -/

/-- The byte of a decimal digit. -/
def digitByte (digit : Nat) : UInt8 := UInt8.ofNat (Nat.digitChar digit).toNat

theorem digitValue?_digitByte {digit : Nat} (decimal : digit < 10) :
    digitValue? (digitByte digit) = some digit := by
  decide +revert

theorem utf8EncodeChar_digitChar {digit : Nat} (decimal : digit < 10) :
    String.utf8EncodeChar (Nat.digitChar digit) = [digitByte digit] := by
  refine utf8EncodeChar_ascii ?_
  rw [Nat.toNat_digitChar_of_lt_ten decimal]
  omega

/-- The bytes of a number's digits. -/
def digitBytes (n : Nat) : List UInt8 := (Nat.toDigits 10 n).flatMap String.utf8EncodeChar

theorem digitBytes_of_lt {n : Nat} (decimal : n < 10) : digitBytes n = [digitByte n] := by
  rw [digitBytes, Nat.toDigits_of_lt_base decimal, List.flatMap_singleton,
    utf8EncodeChar_digitChar decimal]

theorem digitBytes_of_le {n : Nat} (more : 10 ≤ n) :
    digitBytes n = digitBytes (n / 10) ++ [digitByte (n % 10)] := by
  have split := Nat.toDigits_append_toDigits (b := 10) (n := n / 10) (d := n % 10) (by omega)
    (by omega) (by omega)
  rw [Nat.div_add_mod] at split
  rw [← digitBytes_of_lt (n := n % 10) (by omega), digitBytes, ← split, List.flatMap_append]
  rfl

/-! ### Whole numbers -/

/-- A whole number that has been read so far. -/
def wholeNumeral (negative : Bool) (n : Nat) : Numeral :=
  { negative, stage := .whole, significand := n }

/-- One more digit of a whole number that stays within 64 bits. -/
theorem step_wholeNumeral {negative : Bool} {n digit : Nat} (decimal : digit < 10)
    (room : n * 10 + digit ≤ Numeral.significandLimit) :
    step limit ⟨frames, .numeral (wholeNumeral negative n)⟩ (digitByte digit) =
      .ok ⟨frames, .numeral (wholeNumeral negative (n * 10 + digit))⟩ := by
  simp [step, Numeral.step, wholeNumeral, digitValue?_digitByte decimal, Numeral.addDigit, room]

/-- From a state that a first digit turns into a number of that digit, the digits of a number lead
to that number. -/
theorem reads_digits {start : JsonState} {negative : Bool}
    (begins : ∀ digit, 0 < digit → digit < 10 → start.step limit (digitByte digit) =
      .ok ⟨frames, .numeral (wholeNumeral negative digit)⟩)
    {n : Nat} (positive : 0 < n) (room : n ≤ Numeral.significandLimit) :
    Reads limit start (digitBytes n) ⟨frames, .numeral (wholeNumeral negative n)⟩ := by
  induction n using Nat.strongRecOn with
  | _ n ih =>
    by_cases decimal : n < 10
    · rw [digitBytes_of_lt decimal]
      exact .single (begins n positive decimal)
    · rw [digitBytes_of_le (by omega)]
      refine (ih (n / 10) (by omega) (by omega) (by omega)).append (.single ?_)
      rw [step_wholeNumeral (by omega) (by omega)]
      congr 4
      omega

/-- The byte of a digit begins nothing but a number. -/
theorem digitByte_begins {digit : Nat} (decimal : digit < 10) :
    isBlankByte (digitByte digit) = false ∧
      ∀ byte ∈ [0x5d, 0x6e, 0x74, 0x66, 0x22, 0x2d, 0x5b, 0x7b], digitByte digit ≠ byte := by
  have table : ∀ digit < 10, isBlankByte (digitByte digit) = false ∧
      [0x5d, 0x6e, 0x74, 0x66, 0x22, 0x2d, 0x5b, 0x7b].all
        (fun byte => digitByte digit != byte) = true := by decide
  obtain ⟨notBlank, others⟩ := table digit decimal
  refine ⟨notBlank, fun byte listed => ?_⟩
  exact bne_iff_ne.mp (List.all_eq_true.mp others byte listed)

/-- The first digit of a whole number without a sign. -/
theorem step_value_digit {place : ValuePlace} {digit : Nat} (positive : 0 < digit)
    (decimal : digit < 10) :
    step limit ⟨frames, .value place⟩ (digitByte digit) =
      .ok ⟨frames, .numeral (wholeNumeral false digit)⟩ := by
  obtain ⟨notBlank, others⟩ := digitByte_begins decimal
  simp only [List.mem_cons, List.not_mem_nil, or_false, forall_eq_or_imp, forall_eq] at others
  have value := digitValue?_digitByte decimal
  cases digit with
  | zero => exact absurd positive (Nat.lt_irrefl 0)
  | succ digit => simp [step, stepValue, notBlank, others, value, wholeNumeral]

/-- The first digit of a whole number after its sign. -/
theorem step_sign_digit {digit : Nat} (positive : 0 < digit) (decimal : digit < 10) :
    step limit ⟨frames, .numeral { negative := true, stage := .sign }⟩ (digitByte digit) =
      .ok ⟨frames, .numeral (wholeNumeral true digit)⟩ := by
  have value := digitValue?_digitByte decimal
  have room : digit ≤ Numeral.significandLimit := by
    rw [Numeral.significandLimit]
    omega
  cases digit with
  | zero => exact absurd positive (Nat.lt_irrefl 0)
  | succ digit => simp [step, Numeral.step, value, wholeNumeral, Numeral.addDigit, room]

/-! ### Complete numbers -/

/-- A delimiter is no part of a number. -/
theorem ends_of_isDelimiter {byte : UInt8} (delimiter : isDelimiter byte) :
    digitValue? byte = none ∧ byte ≠ 0x2e ∧ byte ≠ 0x65 ∧ byte ≠ 0x45 := by
  simp only [isDelimiter, isBlankByte, Bool.or_eq_true, decide_eq_true_eq] at delimiter
  rcases delimiter with (((((rfl | rfl) | rfl) | rfl) | rfl) | rfl) | rfl <;> decide

/-- A number without point and exponent is complete at the next delimiter. -/
theorem holds_numeral {numeral : Numeral} {number : JsonNumber}
    (whole : numeral.stage = .zero ∨ numeral.stage = .whole)
    (value : numeral.value? = some number) :
    Holds limit ⟨frames, .numeral numeral⟩ frames (.number number) := by
  constructor
  · intro byte delimiter
    obtain ⟨noDigit, notPoint, notSmall, notLarge⟩ := ends_of_isDelimiter delimiter
    have ended : numeral.step byte = .ends := by
      rcases whole with stage | stage <;>
        simp [Numeral.step, stage, noDigit, Numeral.afterDigits, notPoint, notSmall, notLarge]
    simp only [step, ended, value]
  · have complete : numeral.isComplete = true := by
      rcases whole with stage | stage <;> rw [Numeral.isComplete, stage]
    simp only [finish, complete, if_true, value]

/-- A whole number that is not minus zero, of limited size, is an integer. -/
theorem value?_wholeNumeral {negative : Bool} {n : Nat} {value : Int} (positive : 0 < n)
    (signed : (if negative then -(n : Int) else n) = value) (exact : IsExactInteger value) :
    (wholeNumeral negative n).value? = some (.integer value exact) := by
  subst signed
  have notZero : ¬ (negative = true ∧ n = 0) := by omega
  show (if negative = true ∧ n = 0 then _
    else if exact : IsExactInteger (if negative then -(n : Int) else n) then
      some (JsonNumber.integer _ exact)
    else _) = _
  rw [if_neg notZero, dif_pos exact]

/-- A whole number that has been read is a value, if it is an integer of limited size. -/
theorem holds_wholeNumeral {negative : Bool} {n : Nat} {value : Int} (positive : 0 < n)
    (signed : (if negative then -(n : Int) else n) = value) (exact : IsExactInteger value) :
    Holds limit ⟨frames, .numeral (wholeNumeral negative n)⟩ frames
      (.number (.integer value exact)) :=
  holds_numeral (.inr rfl) (value?_wholeNumeral positive signed exact)

/-- The magnitude of an integer of limited size has room in 64 bits. -/
theorem natAbs_le_significandLimit {value : Int} (exact : IsExactInteger value) :
    value.natAbs ≤ Numeral.significandLimit := by
  obtain ⟨low, high⟩ := exact
  rw [Numeral.significandLimit]
  omega

theorem bytesOf_repr (n : Nat) : bytesOf (Nat.repr n) = digitBytes n := bytesOf_ofList _

theorem reads_minus (place : ValuePlace) :
    Reads limit ⟨frames, .value place⟩ (bytesOf "-")
      ⟨frames, .numeral { negative := true, stage := .sign }⟩ :=
  .single rfl

/-- An integer of limited size is read back from its text. -/
theorem exists_reads_integer (place : ValuePlace) (value : Int) (exact : IsExactInteger value) :
    ∃ next, Reads limit ⟨frames, .value place⟩ (bytesOf (toString value)) next ∧
      Holds limit next frames (.number (.integer value exact)) := by
  have room := natAbs_le_significandLimit exact
  cases value with
  | ofNat n =>
    show ∃ next, Reads limit _ (bytesOf (Nat.repr n)) next ∧ _
    rw [bytesOf_repr]
    by_cases zero : n = 0
    · subst zero
      refine ⟨⟨frames, .numeral { negative := false, stage := .zero }⟩, ?_,
        holds_numeral (.inl rfl) ?_⟩
      · rw [digitBytes_of_lt (by omega)]
        exact .single rfl
      · simp [Numeral.value?, IsExactInteger]
    · have positive : 0 < n := Nat.pos_of_ne_zero zero
      refine ⟨⟨frames, .numeral (wholeNumeral false n)⟩, ?_, ?_⟩
      · exact reads_digits (fun digit => step_value_digit) positive room
      · exact holds_wholeNumeral positive (by simp) exact
  | negSucc n =>
    refine ⟨⟨frames, .numeral (wholeNumeral true (n + 1))⟩, ?_, ?_⟩
    · show Reads limit _ (bytesOf ("-" ++ Nat.repr (n + 1))) _
      rw [bytesOf_append, bytesOf_repr]
      exact (reads_minus place).append
        (reads_digits (fun digit => step_sign_digit) n.succ_pos room)
    · exact holds_wholeNumeral n.succ_pos (by simp [Int.negSucc_eq]) exact

end StoreTopology.JsonState

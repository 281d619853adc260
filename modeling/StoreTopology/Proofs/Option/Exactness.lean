/-
**Numbers are read exactly, and never wrap.**

A text may write an integer, an octal number, or a number of units of size or time.

* `Coercion.Writes`: a text writes a number, of whatever size, in the way that a coercion reads;
* `Coercion.IsExact`: a coercion takes the texts that write a number in its range for just that
  number, and refuses all others;
* `Coercion.coerce_exact`: so do those to integers, octals and byte sizes;
* `Coercion.timeInterval_exact`: so does that to time intervals, unless the unit is the long s, which
  stands for days (`timeInterval_longS`).
-/

import StoreTopology.ConfigError
import StoreTopology.Proofs.Option.Settling
import StoreTopology.Proofs.Option.Units

namespace StoreTopology.Coercion

open Text

/-! ### Texts that write numbers -/

/-- The text writes a number, of whatever size, in the way that the coercion reads. -/
inductive Writes : Coercion → List Char → Int → Prop
  | unsigned {digits : List Char} (numeral : IsNumeral 10 digits) :
      Writes .integer digits (numeralValue 10 digits)
  | positive {digits : List Char} (numeral : IsNumeral 10 digits) :
      Writes .integer ('+' :: digits) (numeralValue 10 digits)
  | negative {digits : List Char} (numeral : IsNumeral 10 digits) :
      Writes .integer ('-' :: digits) (-(numeralValue 10 digits : Int))
  | octal {digits : List Char} (numeral : IsNumeral 8 digits) :
      Writes .octal digits (numeralValue 8 digits)
  | markedOctal {mark : Char} {digits : List Char} (isMark : mark = 'o' ∨ mark = 'O')
      (numeral : IsNumeral 8 digits) : Writes .octal ('0' :: mark :: digits) (numeralValue 8 digits)
  | byteSize {digits gap unit : List Char} {factor : Nat} (numeral : IsNumeral 10 digits)
      (blank : ∀ c ∈ gap, isBlank c = true) (isUnit : IsUnit sizeFactors unit factor) :
      Writes .byteSize (digits ++ gap ++ unit) (numeralValue 10 digits * factor : Nat)
  | timeInterval {digits gap unit : List Char} {factor : Nat} (numeral : IsNumeral 10 digits)
      (blank : ∀ c ∈ gap, isBlank c = true) (isUnit : IsUnit timeFactors unit factor) :
      Writes .timeInterval (digits ++ gap ++ unit) (numeralValue 10 digits * factor : Nat)

/-- A value of the coercion can hold the number. -/
def InRange : Coercion → Int → Prop
  | .integer, number => -2 ^ 63 ≤ number ∧ number < 2 ^ 63
  | .octal, number => number < 2 ^ 32
  | .byteSize, number | .timeInterval, number => number < 2 ^ 64
  | .boolean, _ | .path, _ | .string, _ => False

instance (coercion : Coercion) (number : Int) : Decidable (coercion.InRange number) :=
  match coercion with
  | .integer => inferInstanceAs (Decidable (-2 ^ 63 ≤ number ∧ number < 2 ^ 63))
  | .octal => inferInstanceAs (Decidable (number < 2 ^ 32))
  | .byteSize | .timeInterval => inferInstanceAs (Decidable (number < 2 ^ 64))
  | .boolean | .path | .string => inferInstanceAs (Decidable False)

/-- The value is one of the coercion, and holds the number. -/
inductive Shows : Coercion → OptionValue → Int → Prop
  | integer (word : Int64) : Shows .integer (.integer word) word.toInt
  | octal (word : UInt32) : Shows .octal (.octal word) word.toNat
  | byteSize (word : UInt64) : Shows .byteSize (.byteSize word) word.toNat
  | seconds (word : UInt64) : Shows .timeInterval (.seconds word) word.toNat

/-! ### What is read -/

theorem readInt?_eq_some_iff {text : List Char} {number : Int} :
    readInt? text = some number ↔ Writes .integer text number := by
  have noSign : ∀ {sign : Char} {digits : List Char}, sign = '+' ∨ sign = '-' →
      ¬ IsNumeral 10 (sign :: digits) := by
    rintro sign digits isSign numeral
    have first := numeral.areDigits sign List.mem_cons_self
    rcases isSign with rfl | rfl
    · exact absurd first (by decide)
    · exact absurd first (by decide)
  unfold readInt?
  constructor
  · intro read
    split at read
    · obtain ⟨_, isRead, rfl⟩ := Option.map_eq_some_iff.mp read
      obtain ⟨numeral, rfl⟩ := readNat?_eq_some_iff.mp isRead
      exact .positive numeral
    · obtain ⟨_, magnitude, rfl⟩ := Option.map_eq_some_iff.mp read
      obtain ⟨_, isRead, same⟩ := Option.bind_eq_some_iff.mp magnitude
      cases same
      obtain ⟨numeral, rfl⟩ := readNat?_eq_some_iff.mp isRead
      exact .negative numeral
    · obtain ⟨_, isRead, rfl⟩ := Option.map_eq_some_iff.mp read
      obtain ⟨numeral, rfl⟩ := readNat?_eq_some_iff.mp isRead
      exact .unsigned numeral
  · intro writes
    cases writes with
    | @positive digits numeral =>
      show (readNat? digits).map Int.ofNat = _
      rw [readNat?_eq_some_iff.mpr ⟨numeral, rfl⟩]
      rfl
    | @negative digits numeral =>
      show ((readNat? digits).bind fun number => some (number : Int)).map (fun number => -number) = _
      rw [readNat?_eq_some_iff.mpr ⟨numeral, rfl⟩]
      rfl
    | unsigned numeral =>
      split
      · exact absurd numeral (noSign (.inl rfl))
      · exact absurd numeral (noSign (.inr rfl))
      · rw [readNat?_eq_some_iff.mpr ⟨numeral, rfl⟩]
        rfl

/-- The digits of an octal number stand behind its mark, if it has one. -/
theorem writes_octal_iff {text : List Char} {number : Int} :
    Writes .octal text number ↔
      IsNumeral 8 (octalDigits text) ∧ number = numeralValue 8 (octalDigits text) := by
  have noMark : ∀ {mark : Char} {digits : List Char}, mark = 'o' ∨ mark = 'O' →
      ¬ IsNumeral 8 ('0' :: mark :: digits) := by
    rintro mark digits isMark numeral
    have second := numeral.areDigits mark (List.mem_cons_of_mem _ List.mem_cons_self)
    rcases isMark with rfl | rfl
    · exact absurd second (by decide)
    · exact absurd second (by decide)
  unfold octalDigits
  constructor
  · intro writes
    cases writes with
    | markedOctal isMark numeral =>
      rcases isMark with rfl | rfl
      · exact ⟨numeral, rfl⟩
      · exact ⟨numeral, rfl⟩
    | octal numeral =>
      split
      · exact absurd numeral (noMark (.inl rfl))
      · exact absurd numeral (noMark (.inr rfl))
      · exact ⟨numeral, rfl⟩
  · rintro ⟨numeral, rfl⟩
    split at numeral
    · exact .markedOctal (.inl rfl) numeral
    · exact .markedOctal (.inr rfl) numeral
    · exact .octal numeral

theorem readOctal?_of_writes {text : List Char} {number : Nat} (writes : Writes .octal text number) :
    readOctal? text = toUInt32? number := by
  obtain ⟨numeral, same⟩ := writes_octal_iff.mp writes
  unfold readOctal?
  dsimp only
  rw [if_pos (isNumeral_eight_iff.mp numeral), ofDigitChars_eq_numeralValue, Int.ofNat_inj.mp same]

theorem exists_writes_of_readOctal? {text : List Char} {word : UInt32}
    (read : readOctal? text = some word) : ∃ number, Writes .octal text number := by
  unfold readOctal? at read
  dsimp only at read
  split at read
  · next isNumeral => exact ⟨_, writes_octal_iff.mpr ⟨isNumeral_eight_iff.mpr isNumeral, rfl⟩⟩
  · cases read

/-- The value that holds a number, if it is in the range of the coercion. -/
def fit : Coercion → Int → Option OptionValue
  | .integer, number => (toInt64? number).map .integer
  | .octal, number => (toUInt32? number.toNat).map .octal
  | .byteSize, number => (toUInt64? number.toNat).map .byteSize
  | .timeInterval, number => (toUInt64? number.toNat).map .seconds
  | .boolean, _ | .path, _ | .string, _ => none

/-- Numbers of a coercion other than to integers are natural. -/
theorem Writes.natural {coercion : Coercion} {text : List Char} {number : Int}
    (writes : coercion.Writes text number) : coercion = .integer ∨ 0 ≤ number := by
  cases writes with
  | unsigned | positive | negative => exact .inl rfl
  | octal | markedOctal | byteSize | timeInterval => exact .inr (Int.natCast_nonneg _)

variable {coercion : Coercion} {key raw : String} {number : Int}

theorem exists_fit (natural : coercion = .integer ∨ 0 ≤ number) (inRange : coercion.InRange number) :
    ∃ value, coercion.fit number = some value ∧ coercion.Shows value number := by
  cases coercion with
  | boolean | path | string => cases inRange
  | integer =>
    obtain ⟨word, put, rfl⟩ := toInt64?_exact.holds number inRange
    exact ⟨_, Option.map_eq_some_iff.mpr ⟨word, put, rfl⟩, .integer word⟩
  | octal =>
    obtain ⟨count, rfl⟩ := Int.eq_ofNat_of_zero_le (natural.resolve_left nofun)
    obtain ⟨word, put, rfl⟩ := toUInt32?_exact.holds count (Int.ofNat_lt.mp inRange)
    exact ⟨_, Option.map_eq_some_iff.mpr ⟨word, put, rfl⟩, .octal word⟩
  | byteSize =>
    obtain ⟨count, rfl⟩ := Int.eq_ofNat_of_zero_le (natural.resolve_left nofun)
    obtain ⟨word, put, rfl⟩ := toUInt64?_exact.holds count (Int.ofNat_lt.mp inRange)
    exact ⟨_, Option.map_eq_some_iff.mpr ⟨word, put, rfl⟩, .byteSize word⟩
  | timeInterval =>
    obtain ⟨count, rfl⟩ := Int.eq_ofNat_of_zero_le (natural.resolve_left nofun)
    obtain ⟨word, put, rfl⟩ := toUInt64?_exact.holds count (Int.ofNat_lt.mp inRange)
    exact ⟨_, Option.map_eq_some_iff.mpr ⟨word, put, rfl⟩, .seconds word⟩

theorem fit_eq_none (natural : coercion = .integer ∨ 0 ≤ number)
    (outOfRange : ¬ coercion.InRange number) : coercion.fit number = none := by
  cases coercion with
  | boolean | path | string => rfl
  | integer => exact Option.map_eq_none_iff.mpr (toInt64?_exact.overflows number outOfRange)
  | octal =>
    obtain ⟨count, rfl⟩ := Int.eq_ofNat_of_zero_le (natural.resolve_left nofun)
    exact Option.map_eq_none_iff.mpr
      (toUInt32?_exact.overflows count fun fits => outOfRange (Int.ofNat_lt.mpr fits))
  | byteSize | timeInterval =>
    obtain ⟨count, rfl⟩ := Int.eq_ofNat_of_zero_le (natural.resolve_left nofun)
    exact Option.map_eq_none_iff.mpr
      (toUInt64?_exact.overflows count fun fits => outOfRange (Int.ofNat_lt.mpr fits))

/-! ### Exactness -/

/-- The text is refused with a value error. -/
def Refuses (coercion : Coercion) (key raw : String) : Prop :=
  coercion.coerce key raw = .error (.notOfKind coercion key raw) ∧
    (ConfigError.option (.notOfKind coercion key raw)).isValue = true

/-- The text is taken for the number: its value holds the number if that is in range, and else the
text is refused. -/
structure TakesFor (coercion : Coercion) (key raw : String) (number : Int) : Prop where
  accepts : coercion.InRange number →
    ∃ value, coercion.coerce key raw = .ok value ∧ coercion.Shows value number
  refuses : ¬ coercion.InRange number → coercion.Refuses key raw

/-- A text that writes a number is taken for it, and any other text is refused. -/
structure IsExact (coercion : Coercion) (key raw : String) : Prop where
  written : ∀ number, coercion.Writes raw.toList number → coercion.TakesFor key raw number
  other : (∀ number, ¬ coercion.Writes raw.toList number) → coercion.Refuses key raw

theorem refuses_of_read? (notRead : coercion.read? raw = none) : coercion.Refuses key raw := by
  refine ⟨?_, rfl⟩
  unfold coerce
  rw [notRead]

/-- A text is taken for a number if it is read as the value that holds the number. -/
theorem takesFor_of_read? (natural : coercion = .integer ∨ 0 ≤ number)
    (read : coercion.read? raw = coercion.fit number) : coercion.TakesFor key raw number where
  accepts inRange := by
    obtain ⟨value, fits, shows⟩ := exists_fit natural inRange
    exact ⟨value, coerce_eq_ok_iff.mpr (read.trans fits), shows⟩
  refuses outOfRange := refuses_of_read? (read.trans (fit_eq_none natural outOfRange))

theorem isExact_of_read?
    (read : ∀ number, coercion.Writes raw.toList number → coercion.read? raw = coercion.fit number)
    (onlyWritten : ∀ value, coercion.read? raw = some value →
      ∃ number, coercion.Writes raw.toList number) : coercion.IsExact key raw where
  written number writes := takesFor_of_read? writes.natural (read number writes)
  other noNumber := refuses_of_read? <| Option.eq_none_iff_forall_ne_some.mpr fun value isRead =>
    (onlyWritten value isRead).elim noNumber

theorem integer_exact (key raw : String) : integer.IsExact key raw := by
  refine isExact_of_read? (fun number writes => ?_) (fun value isRead => ?_)
  · show ((readInt? raw.toList).bind toInt64?).map OptionValue.integer = _
    rw [readInt?_eq_some_iff.mpr writes]
    rfl
  · obtain ⟨_, fits, _⟩ := Option.map_eq_some_iff.mp isRead
    obtain ⟨number, read, _⟩ := Option.bind_eq_some_iff.mp fits
    exact ⟨number, readInt?_eq_some_iff.mp read⟩

theorem octal_exact (key raw : String) : octal.IsExact key raw := by
  refine isExact_of_read? (fun number writes => ?_) (fun value isRead => ?_)
  · obtain ⟨count, rfl⟩ := Int.eq_ofNat_of_zero_le (writes.natural.resolve_left nofun)
    show (readOctal? raw.toList).map OptionValue.octal = _
    rw [readOctal?_of_writes writes]
    rfl
  · obtain ⟨_, read, _⟩ := Option.map_eq_some_iff.mp isRead
    exact exists_writes_of_readOctal? read

theorem byteSize_exact (key raw : String) : byteSize.IsExact key raw := by
  refine isExact_of_read? (fun number writes => ?_) (fun value isRead => ?_)
  · show (readUnits? sizeUnit? raw.toList).map OptionValue.byteSize = _
    generalize raw.toList = text at writes
    cases writes with
    | byteSize numeral blank isUnit =>
      rw [readUnits?_append beginsApart_sizeUnit? numeral blank (sizeUnit?_eq_some_iff.mpr isUnit)]
      rfl
  · obtain ⟨_, read, _⟩ := Option.map_eq_some_iff.mp isRead
    obtain ⟨digits, gap, unit, factor, whole, numeral, blank, isUnit⟩ :=
      exists_append_of_readUnits? read
    rw [whole]
    exact ⟨_, .byteSize numeral blank (sizeUnit?_eq_some_iff.mp isUnit)⟩

/-- **Integers, octals and byte sizes are exact.** A text that writes a number in range stands for
just this number, and any other text is refused. -/
theorem coerce_exact (key raw : String) :
    integer.IsExact key raw ∧ octal.IsExact key raw ∧ byteSize.IsExact key raw :=
  ⟨integer_exact key raw, octal_exact key raw, byteSize_exact key raw⟩

/-- **Time intervals are exact, unless the unit is the long s.** A text that ends with another
character and writes a number in range stands for just this number, and any other such text is
refused. The long s is the small letter s by case folding, but is taken for days. -/
theorem timeInterval_exact (key raw : String) :
    (raw.toList.getLast? ≠ some '\u017f' → timeInterval.IsExact key raw) ∧
      ∀ digits gap, raw.toList = digits ++ gap ++ ['\u017f'] → IsNumeral 10 digits →
        (∀ c ∈ gap, isBlank c = true) →
          timeInterval.TakesFor key raw (numeralValue 10 digits * 86400 : Nat) := by
  constructor
  · intro noLongS
    -- Only a text that ends with the long s has it as its unit.
    have notLong : ∀ {front unit : List Char}, raw.toList = front ++ unit → unit ≠ ['\u017f'] := by
      rintro front _ whole rfl
      exact noLongS (by rw [whole, List.getLast?_concat])
    refine isExact_of_read? (fun number writes => ?_) (fun value isRead => ?_)
    · show (readUnits? timeUnit? raw.toList).map OptionValue.seconds = _
      generalize raw.toList = text at writes notLong
      cases writes with
      | timeInterval numeral blank isUnit =>
        rw [readUnits?_append beginsApart_timeUnit? numeral blank
          ((timeUnit?_eq_some_iff (notLong rfl)).mpr isUnit)]
        rfl
    · obtain ⟨_, read, _⟩ := Option.map_eq_some_iff.mp isRead
      obtain ⟨digits, gap, unit, factor, whole, numeral, blank, isUnit⟩ :=
        exists_append_of_readUnits? read
      have isListed := (timeUnit?_eq_some_iff (notLong whole)).mp isUnit
      rw [whole]
      exact ⟨_, .timeInterval numeral blank isListed⟩
  · intro digits gap whole numeral blank
    refine takesFor_of_read? (.inr (Int.natCast_nonneg _)) ?_
    show (readUnits? timeUnit? raw.toList).map OptionValue.seconds = _
    rw [whole, readUnits?_append beginsApart_timeUnit? numeral blank timeUnit?_longS]
    rfl

/-- Five minutes, with a leading zero, blanks and a capital letter. -/
theorem timeInterval_exact_minutes : ∃ word : UInt64,
    timeInterval.coerce "pool-timeout" "05 \t M" = .ok (.seconds word) ∧ word.toNat = 300 := by
  have noLongS : "05 \t M".toList.getLast? ≠ some '\u017f' := by decide
  have numeral : IsNumeral 10 ['0', '5'] :=
    ⟨by decide, List.forall_mem_cons.mpr ⟨by decide, List.forall_mem_singleton.mpr (by decide)⟩⟩
  have blank : ∀ c ∈ [' ', '\t', ' '], isBlank c = true := List.all_eq_true.mp (by decide)
  have isUnit : IsUnit timeFactors ['M'] 60 := ⟨['m'], by decide, .cons (by decide) .nil⟩
  have writes : timeInterval.Writes "05 \t M".toList 300 := .timeInterval numeral blank isUnit
  have exact := (timeInterval_exact "pool-timeout" "05 \t M").1 noLongS
  obtain ⟨value, isOk, shows⟩ := (exact.written 300 writes).accepts (by decide)
  generalize same : (300 : Int) = number at shows
  cases shows with
  | seconds word => exact ⟨word, isOk, (Int.ofNat_inj.mp same).symm⟩

/-- Five seconds are taken for five days if their unit is the long s. -/
theorem timeInterval_longS :
    timeInterval.Writes "5\u017f".toList 5 ∧
      timeInterval.coerce "pool-timeout" "5\u017f" = .ok (.seconds 432000) ∧
      ¬ timeInterval.IsExact "pool-timeout" "5\u017f" := by
  have numeral : IsNumeral 10 ['5'] := ⟨by decide, List.forall_mem_singleton.mpr (by decide)⟩
  have noGap : ∀ c ∈ ([] : List Char), isBlank c = true := nofun
  have isUnit : IsUnit timeFactors ['\u017f'] 1 := ⟨['s'], by decide, .cons (by decide) .nil⟩
  have writes : timeInterval.Writes "5\u017f".toList 5 := .timeInterval numeral noGap isUnit
  have days : timeInterval.coerce "pool-timeout" "5\u017f" = .ok (.seconds 432000) := by
    decide +kernel
  refine ⟨writes, days, fun exact => ?_⟩
  obtain ⟨value, isOk, shows⟩ := (exact.written 5 writes).accepts (by decide)
  rw [days] at isOk
  cases isOk
  generalize same : (5 : Int) = number at shows
  cases shows
  exact absurd same (by decide)

end StoreTopology.Coercion

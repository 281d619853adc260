/-
**Finite numbers of 64-bit binary floating point.**

A finite number is a sign and a magnitude. Magnitudes are numbered in increasing order: below
`2 ^ 52` they are the multiples of the smallest positive number, and each further block of
`2 ^ 52` holds the significands of one binary exponent, twice as far apart as in the block before.

* `significand`, `exponent`, `quotient`: the magnitude is `significand * 2 ^ exponent`;
* `nearest`: the magnitude nearest to a quotient of naturals, an exact half going to the even
  neighbour, unless that would be infinite;
* `ofDecimal`: the number nearest to a decimal one.
-/

namespace StoreTopology

namespace Binary64

/-- The count of magnitudes in a block, `2 ^ 52`. -/
def blockSize : Nat := 0x10000000000000

/-- The count of finite magnitudes. -/
def magnitudeCount : Nat := 2047 * blockSize

end Binary64

/-- A sign and the ordinal number of a finite magnitude. -/
structure Binary64 where
  negative : Bool
  magnitude : Nat
  finite : magnitude < Binary64.magnitudeCount
deriving DecidableEq, Repr

namespace Binary64

/-- Zero with a sign. -/
def zero (negative : Bool) : Binary64 := ⟨negative, 0, by decide⟩

/-- The whole number that a power of two multiplies. -/
def significand (x : Binary64) : Nat :=
  if x.magnitude < blockSize then x.magnitude else blockSize + x.magnitude % blockSize

/-- The power of two that multiplies the significand. -/
def exponent (x : Binary64) : Int :=
  if x.magnitude < blockSize then -1074 else (x.magnitude / blockSize : Nat) - 1075

/-- The magnitude as a quotient of naturals. -/
def quotient (x : Binary64) : Nat × Nat :=
  (x.significand * Nat.pow 2 x.exponent.toNat, Nat.pow 2 (-x.exponent).toNat)

/-- A quotient rounded to a whole number, an exact half to the even neighbour. -/
def roundQuotient (numerator denominator : Nat) : Nat :=
  let quotient := numerator / denominator
  let twice := 2 * (numerator % denominator)
  if denominator < twice || (twice = denominator && quotient % 2 = 1) then quotient + 1
  else quotient

/-- The magnitude nearest to a quotient of positive naturals, if it is finite. -/
def nearest (numerator denominator : Nat) : Option { n : Nat // n < magnitudeCount } :=
  let scaled := numerator * Nat.pow 2 1074
  let units := scaled / denominator
  let block := if units < 2 * blockSize then 0 else units.log2 - 52
  let ordinal := block * blockSize + roundQuotient scaled (denominator * Nat.pow 2 block)
  if finite : ordinal < magnitudeCount then some ⟨ordinal, finite⟩ else none

/-- The number with a sign whose magnitude is nearest to a quotient, if it is finite. -/
def rounded (negative : Bool) (numerator denominator : Nat) : Option Binary64 :=
  (nearest numerator denominator).map fun magnitude =>
    ⟨negative, magnitude.val, magnitude.property⟩

/-- The number nearest to `digits * 10 ^ exponent`, if it is finite. Decimal exponents far outside
the range of magnitudes are settled by the count of digits. -/
def ofDecimal (negative : Bool) (digits : Nat) (exponent : Int) : Option Binary64 :=
  let order := exponent + (Nat.toDigits 10 digits).length
  if digits = 0 || order < -330 then some (zero negative)
  else if 310 < order then none
  else
    rounded negative (digits * Nat.pow 10 exponent.toNat) (Nat.pow 10 (-exponent).toNat)

end Binary64

end StoreTopology

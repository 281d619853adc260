/-
**The shortest decimal that reads back as a binary number.**

Decimal grids are tried from the coarsest that meets the number to finer ones. On each grid the two
neighbours of the number are candidates; the first grid with a candidate that reads back
decides, and of two candidates there the nearer, or of equally near ones the even one.
-/

import StoreTopology.Binary64.Basic

namespace StoreTopology.Binary64

/-- Digits and a power of ten. -/
structure Decimal where
  digits : Nat
  exponent : Int
deriving DecidableEq, Repr

/-- The exponent of the highest power of ten that is not above a positive quotient. -/
def decimalOrder (numerator denominator : Nat) : Int :=
  if denominator ≤ numerator then (Nat.toDigits 10 (numerator / denominator)).length - 1
  else
    let places := (Nat.toDigits 10 (denominator / numerator)).length
    if denominator ≤ numerator * Nat.pow 10 (places - 1) then 1 - (places : Int)
    else -(places : Int)

/-- The magnitude of a decimal, rounded, is the given one. -/
def readsBack (x : Binary64) (digits : Nat) (exponent : Int) : Bool :=
  digits ≠ 0 && (ofDecimal x.negative digits exponent).any (· == x)

/-- The candidate on one grid that reads back, if there is one. -/
def gridCandidate? (x : Binary64) (exponent : Int) : Option Nat :=
  let (numerator, denominator) := x.quotient
  let numerator := numerator * Nat.pow 10 (-exponent).toNat
  let denominator := denominator * Nat.pow 10 exponent.toNat
  let below := numerator / denominator
  let twice := 2 * (numerator % denominator)
  match x.readsBack below exponent, x.readsBack (below + 1) exponent with
  | true, true =>
    if twice < denominator || (twice = denominator && below % 2 = 0) then some below
    else some (below + 1)
  | true, false => some below
  | false, true => some (below + 1)
  | false, false => none

/-- The first grid with a candidate, from an exponent downwards. Seventeen digits always suffice. -/
def searchGrids (x : Binary64) (exponent : Int) : Nat → Decimal
  | 0 => ⟨(gridCandidate? x exponent).getD 0, exponent⟩
  | finer + 1 =>
    match gridCandidate? x exponent with
    | some digits => ⟨digits, exponent⟩
    | none => searchGrids x (exponent - 1) finer

/-- A decimal without zeros at the end of its digits, given a bound on their number. -/
def dropZeros (decimal : Decimal) : Nat → Decimal
  | 0 => decimal
  | more + 1 =>
    if decimal.digits ≠ 0 && decimal.digits % 10 = 0 then
      dropZeros ⟨decimal.digits / 10, decimal.exponent + 1⟩ more
    else decimal

/-- The shortest decimal of a magnitude; zero is zero. -/
def shortest (x : Binary64) : Decimal :=
  if x.magnitude = 0 then ⟨0, 0⟩
  else
    let (numerator, denominator) := x.quotient
    dropZeros (searchGrids x (decimalOrder numerator denominator) 17) 17

end StoreTopology.Binary64

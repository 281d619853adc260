/-
**Scaling a binary number by a power of ten.**

A product and a quotient of two numbers are exact in the naturals and are rounded once. A power of
ten that is no binary number is rounded before that, so that a number scaled by it need not be the
nearest one to the exact result.

* `times`, `dividedBy`: one rounded operation, none where the result would be infinite;
* `scaled`: a whole number times a power of ten, each step rounded.
-/

import StoreTopology.Binary64.Basic

namespace StoreTopology.Binary64

/-- The number nearest to a product. -/
def times (x y : Binary64) : Option Binary64 :=
  rounded (x.negative.xor y.negative) (x.quotient.1 * y.quotient.1) (x.quotient.2 * y.quotient.2)

/-- The number nearest to a quotient by a number other than zero. -/
def dividedBy (x y : Binary64) : Option Binary64 :=
  rounded (x.negative.xor y.negative) (x.quotient.1 * y.quotient.2) (x.quotient.2 * y.quotient.1)

/-- The exponent of the largest power of ten that is finite. -/
def powerLimit : Nat := 308

/-- The number nearest to a power of ten. -/
def powerOfTen (exponent : Nat) : Option Binary64 := ofDecimal false 1 exponent

/-- A number times a power of ten. Zero stays zero. -/
def shiftUp (x : Binary64) (exponent : Nat) : Option Binary64 :=
  if x.magnitude = 0 then some x else do x.times (← powerOfTen exponent)

/-- A number divided by a power of ten, in steps if the power is not finite. -/
def shiftDown (x : Binary64) (exponent : Nat) : Option Binary64 :=
  if x.magnitude = 0 then some x
  else if exponent ≤ powerLimit then do x.dividedBy (← powerOfTen exponent)
  else do
    let next ← x.dividedBy (← powerOfTen powerLimit)
    shiftDown next (exponent - powerLimit)
termination_by exponent
decreasing_by
  simp only [powerLimit] at *
  omega

/-- A whole number times a power of ten, with a sign. The whole number is rounded first, then the
power, then the result. -/
def scaled (negative : Bool) (significand : Nat) (exponent : Int) : Option Binary64 := do
  let x ← ofDecimal negative significand 0
  if 0 ≤ exponent then x.shiftUp exponent.toNat else x.shiftDown (-exponent).toNat

end StoreTopology.Binary64

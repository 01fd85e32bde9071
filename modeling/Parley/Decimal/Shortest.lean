/-
# The shortest decimal that reads back

Of all decimals that round to a given magnitude the written one has the fewest
digits, and among those it is the nearest.  Each digit count is tested on the
decimal grid of its size: if any point of that grid lies in the interval of
numbers that round to the magnitude, one of the two neighbours of the magnitude
does.
-/

import Parley.Decimal.Binary
import Parley.Decimal.Integer

namespace Parley.Decimal

/-- The decimal `digits * 10 ^ exponent`. -/
structure Scaled where
  digits : Nat
  exponent : Int
deriving DecidableEq, Repr

/-- Remove the zeros at the end of the digits, at most `tries` of them. -/
def Scaled.stripZeros (d : Scaled) : Nat → Scaled
  | 0 => d
  | tries + 1 =>
      if d.digits ≠ 0 ∧ d.digits % 10 = 0 then
        stripZeros ⟨d.digits / 10, d.exponent + 1⟩ tries
      else d

namespace Magnitude

/-- The least and greatest number that round to `x`, on a common denominator, as
`(low, value, high, denominator)`.  The gap below a full power of two is half as
wide as the one above, except at the least exponent. -/
def interval (x : Magnitude) : Nat × Nat × Nat × Nat :=
  let narrow := x.mantissa = leastFull ∧ x.exponent ≠ minExponent
  let low := if narrow then 4 * x.mantissa - 1 else 4 * x.mantissa - 2
  let high := 4 * x.mantissa + 2
  let value := 4 * x.mantissa
  let (unit, den) :=
    if 0 ≤ x.exponent then (1 <<< x.exponent.toNat, 4) else (1, 4 <<< (-x.exponent).toNat)
  (low * unit, value * unit, high * unit, den)

/-- Whether `n / d` rounds to `x`; the ends of the interval do when the mantissa
is even. -/
def roundsTo (x : Magnitude) (n d : Nat) : Bool :=
  let (low, _, high, den) := x.interval
  if x.mantissa % 2 = 0 then low * d ≤ n * den && n * den ≤ high * d
  else low * d < n * den && n * den < high * d

/-- The decimal exponent of the leading digit of `num / den`, for `num` not zero. -/
def leadingExponent (num den : Nat) : Int :=
  let guess : Int := (((Nat.log2 num : Int) - Nat.log2 den) * 30103) / 100000
  let reaches (e : Int) : Bool :=
    if 0 ≤ e then den * powerOfTen e.toNat ≤ num else den ≤ num * powerOfTen (-e).toNat
  if reaches (guess + 1) then guess + 1
  else if reaches guess then guess
  else guess - 1

/-- The nearest point to `x` with `count` digits among those that round to `x`. -/
def candidate (x : Magnitude) (count : Nat) : Option Scaled :=
  let (_, value, _, den) := x.interval
  let exponent := leadingExponent value den - (count : Int) + 1
  let (unitNum, unitDen) :=
    if 0 ≤ exponent then (powerOfTen exponent.toNat, 1) else (1, powerOfTen (-exponent).toNat)
  -- the grid point below is `below * unitNum / unitDen`
  let below := value * unitDen / (den * unitNum)
  let rest := value * unitDen % (den * unitNum)
  let fits (k : Nat) : Bool := x.roundsTo (k * unitNum) unitDen
  let nearerAbove :=
    den * unitNum < 2 * rest || (den * unitNum == 2 * rest && below % 2 == 1)
  if fits below && (!nearerAbove || !fits (below + 1)) then some ⟨below, exponent⟩
  else if fits (below + 1) then some ⟨below + 1, exponent⟩
  else none

/-- The first digit count from `count` on that has a candidate. -/
def shortestFrom (x : Magnitude) (count : Nat) : Nat → Scaled
  | 0 => ⟨0, 0⟩
  | tries + 1 =>
      match x.candidate count with
      | some d => d
      | none => shortestFrom x (count + 1) tries

/-- The shortest decimal that rounds to `x`; seventeen digits always suffice. -/
def shortest (x : Magnitude) : Scaled :=
  if x.isZero then ⟨0, 0⟩ else (x.shortestFrom 1 17).stripZeros 17

end Magnitude

end Parley.Decimal

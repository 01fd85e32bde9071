/-
# Binary floating point in exact arithmetic

A finite number of the 64-bit format is a sign and `mantissa * 2 ^ exponent`.
Everything is decided on natural numbers: a rounding takes an exact quotient to
the nearest representable value, and a product or a quotient of two values is the
rounding of the exact one.  No operation touches the machine's floating point, so
the definitions compute in proofs as they do when run.
-/

namespace Parley.Decimal

/-- A power of ten. -/
def powerOfTen (k : Nat) : Nat := Nat.pow 10 k

/-- A finite magnitude of the 64-bit format.  A mantissa below `2 ^ 52` occurs
only together with the least exponent, so each magnitude has one form. -/
structure Magnitude where
  mantissa : Nat
  exponent : Int
deriving DecidableEq, Repr

namespace Magnitude

/-- Number of bits of a full mantissa. -/
def precision : Nat := 53

/-- The least full mantissa. -/
def leastFull : Nat := 1 <<< (precision - 1)

/-- The exponent of the smallest magnitude. -/
def minExponent : Int := -1074

/-- The exponent of the largest magnitude. -/
def maxExponent : Int := 971

/-- The magnitude zero. -/
def zero : Magnitude := ⟨0, minExponent⟩

/-- Split `mantissa * 2 ^ exponent` in a numerator and a denominator. -/
def toRatio (x : Magnitude) : Nat × Nat :=
  if 0 ≤ x.exponent then (x.mantissa <<< x.exponent.toNat, 1)
  else (x.mantissa, 1 <<< (-x.exponent).toNat)

/-- The nearest integer to `num / den`; of two equally near ones the even one. -/
def roundDiv (num den : Nat) : Nat :=
  let quotient := num / den
  let rest := num % den
  if 2 * rest < den then quotient
  else if den < 2 * rest then quotient + 1
  else if quotient % 2 = 0 then quotient else quotient + 1

/-- `num / den` divided by `2 ^ exponent`, again as a quotient. -/
def scale (num den : Nat) (exponent : Int) : Nat × Nat :=
  if 0 ≤ exponent then (num, den <<< exponent.toNat)
  else (num <<< (-exponent).toNat, den)

/-- The exponent at which the integer part of `num / den` fills the mantissa, but
never less than the least exponent. -/
def exponentFor (num den : Nat) : Int :=
  let guess : Int := (Nat.log2 num : Int) - Nat.log2 den - 52
  let (n, d) := scale num den guess
  let exact := if n / d < leastFull then guess - 1 else guess
  max minExponent exact

/-- The magnitude nearest to `num / den`, ties going to the even mantissa; `none`
when that lies beyond the largest one. -/
def ofRatio (num den : Nat) : Option Magnitude :=
  if num = 0 then some zero
  else
    let exponent := exponentFor num den
    let (n, d) := scale num den exponent
    let mantissa := roundDiv n d
    let rounded : Magnitude :=
      if mantissa = 2 * leastFull then ⟨leastFull, exponent + 1⟩ else ⟨mantissa, exponent⟩
    if maxExponent < rounded.exponent then none else some rounded

/-- The rounded product. -/
def mul? (x y : Magnitude) : Option Magnitude :=
  let (n, d) := x.toRatio
  let (n', d') := y.toRatio
  ofRatio (n * n') (d * d')

/-- The rounded quotient by a magnitude other than zero. -/
def div? (x y : Magnitude) : Option Magnitude :=
  let (n, d) := x.toRatio
  let (n', d') := y.toRatio
  ofRatio (n * d') (d * n')

/-- Whether the value is zero. -/
def isZero (x : Magnitude) : Bool :=
  x.mantissa == 0

/-- The magnitude nearest to a power of ten. -/
def powerOfTen? (k : Nat) : Option Magnitude :=
  ofRatio (powerOfTen k) 1

/-- The largest power of ten that is finite. -/
def maxPowerOfTen : Nat := 308

/-- `x * 10 ^ exponent`, one rounding per step: a power within
`10 ^ maxPowerOfTen` is applied in a single multiplication or division, a smaller
one by repeated division by the largest.  The result can differ from the nearest
magnitude in the last place. -/
def scaleTen (x : Magnitude) (exponent : Int) : Option Magnitude :=
  if 0 ≤ exponent then
    if exponent ≤ maxPowerOfTen then (powerOfTen? exponent.toNat).bind x.mul?
    else if x.isZero then some x else none
  else if -(maxPowerOfTen : Int) ≤ exponent then
    (powerOfTen? (-exponent).toNat).bind x.div?
  else if x.isZero then some x
  else
    ((powerOfTen? maxPowerOfTen).bind x.div?).bind fun y => y.scaleTen (exponent + maxPowerOfTen)
termination_by exponent.natAbs
decreasing_by simp only [maxPowerOfTen] at *; omega

end Magnitude

/-- A finite number of the 64-bit format; zero comes with either sign. -/
structure Binary64 where
  negative : Bool
  magnitude : Magnitude
deriving DecidableEq, Repr

namespace Binary64

/-- Equality of values, to which the sign of zero does not matter. -/
def same (x y : Binary64) : Bool :=
  x.magnitude == y.magnitude && (x.negative == y.negative || x.magnitude.isZero)

end Binary64

end Parley.Decimal

/-
# Numbers with infinities

Besides the finite numbers the 64-bit format has two infinities and a value that is
no number.  Here they are read from decimal text, put in order and written.  A text
is read as the nearest number, and written are the fewest digits that read back, all
of them in their places: there is never an exponent, and no point when nothing
follows it.
-/

import Parley.Decimal.Shortest

namespace Parley.Decimal

namespace Magnitude

/-- The magnitude nearest to `digits * 10 ^ exponent`; `none` when that lies beyond the
largest one.  Far from the bounds the number of digits decides. -/
def nearest? (digits : Nat) (exponent : Int) : Option Magnitude :=
  let size := exponent + (natDigits digits).length
  if digits = 0 ∨ size < -330 then some zero
  else if 320 < size then none
  else if 0 ≤ exponent then ofRatio (digits * powerOfTen exponent.toNat) 1
  else ofRatio digits (powerOfTen (-exponent).toNat)

/-- The order of magnitudes.  Each has one form, with a full mantissa unless the exponent
is the least, so the exponent decides first. -/
def order (x y : Magnitude) : Ordering :=
  (compare x.exponent y.exponent).then (compare x.mantissa y.mantissa)

/-- A magnitude with every digit in its place. -/
def positional (x : Magnitude) : List Char :=
  let shortest := x.shortest
  let digits := natDigits shortest.digits
  if 0 ≤ shortest.exponent then digits ++ List.replicate shortest.exponent.toNat '0'
  else
    let places := (-shortest.exponent).toNat
    if places < digits.length then
      digits.take (digits.length - places) ++ '.' :: digits.drop (digits.length - places)
    else '0' :: '.' :: (List.replicate (places - digits.length) '0' ++ digits)

end Magnitude

/-- The order of finite numbers.  The two zeros are equal. -/
def Binary64.order (x y : Binary64) : Ordering :=
  if x.magnitude.isZero && y.magnitude.isZero then .eq
  else
    match x.negative, y.negative with
    | false, false => x.magnitude.order y.magnitude
    | true, true => y.magnitude.order x.magnitude
    | true, false => .lt
    | false, true => .gt

/-- A value of the 64-bit format. -/
inductive Extended where
  | finite (x : Binary64)
  | infinite (negative : Bool)
  | notNumber
deriving DecidableEq, Repr

namespace Extended

/-- Where a value stands that is not compared by its magnitude. -/
def rank : Extended → Nat
  | .infinite true => 0
  | .finite _ => 1
  | .infinite false => 2
  | .notNumber => 3

/-- The order of values; what is no number comes last. -/
def order : Extended → Extended → Ordering
  | .finite x, .finite y => x.order y
  | x, y => compare x.rank y.rank

/-- A text of digits with an optional point and an optional exponent, as the number
without the point and the power of ten to multiply it by.  There must be a digit before
or after the point. -/
def readScientific? (cs : List Char) : Option (Nat × Int) :=
  let rest := cs.dropWhile Char.isDigit
  let (fraction, rest) :=
    match rest with
    | '.' :: rest => (rest.takeWhile Char.isDigit, rest.dropWhile Char.isDigit)
    | rest => ([], rest)
  let exponent : Option Int :=
    match rest with
    | [] => some 0
    | c :: rest => if c = 'e' ∨ c = 'E' then readInt? rest else none
  exponent.bind fun exponent =>
    (readUnsigned? (cs.takeWhile Char.isDigit ++ fraction)).map fun digits =>
      (digits, exponent - fraction.length)

/-- A value without its sign; `negative` tells the sign that stood before it.  Names are
read in any case. -/
def readUnsigned? (negative : Bool) (cs : List Char) : Option Extended :=
  let name := String.ofList (cs.map Char.toLower)
  if name = "nan" then some .notNumber
  else if name = "inf" ∨ name = "infinity" then some (.infinite negative)
  else
    (readScientific? cs).map fun (digits, exponent) =>
      match Magnitude.nearest? digits exponent with
      | some magnitude => .finite { negative, magnitude }
      | none => .infinite negative

/-- A value with an optional sign. -/
def read? : List Char → Option Extended
  | '-' :: cs => readUnsigned? true cs
  | '+' :: cs => readUnsigned? false cs
  | cs => readUnsigned? false cs

/-- A sign, when there is one. -/
def signText (negative : Bool) : String :=
  if negative then "-" else ""

/-- The written form of a value. -/
def text : Extended → String
  | .finite x => signText x.negative ++ String.ofList x.magnitude.positional
  | .infinite negative => signText negative ++ "inf"
  | .notNumber => "NaN"

end Extended

end Parley.Decimal

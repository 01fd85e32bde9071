/-
# Numerals

Which strings of characters stand for which numbers in base ten, said without a reader: one or
more ASCII digits, leading zeros allowed, after at most one sign.
-/

namespace Parley.Decimal

/-- The value of a string of digits, the most significant first. -/
def numeralValue (cs : List Char) : Nat :=
  cs.foldl (fun n c => 10 * n + (c.toNat - '0'.toNat)) 0

/-- `cs` is a string of digits with the value `n`. -/
structure IsNumeral (cs : List Char) (n : Nat) : Prop where
  nonempty : cs ≠ []
  digits : ∀ c ∈ cs, c.isDigit = true
  value : numeralValue cs = n

/-- `cs` stands for the natural number `n`; a plus sign is optional. -/
inductive IsNatural : List Char → Nat → Prop
  | unsigned {cs : List Char} {n : Nat} (numeral : IsNumeral cs n) : IsNatural cs n
  | plus {cs : List Char} {n : Nat} (numeral : IsNumeral cs n) : IsNatural ('+' :: cs) n

/-- `cs` stands for the integer `i`; a sign is optional. -/
inductive IsInteger : List Char → Int → Prop
  | natural {cs : List Char} {n : Nat} (natural : IsNatural cs n) : IsInteger cs n
  | minus {cs : List Char} {n : Nat} (numeral : IsNumeral cs n) : IsInteger ('-' :: cs) (-n)

/-- Minus zero as an integer, without further zeros. -/
def minusZero : List Char := ['-', '0']

end Parley.Decimal

/-
# Integers in base ten

The written form of an integer is its digits without leading zeros, after a minus
sign when it is negative.  Reading is laxer than writing: a plus sign and leading
zeros are accepted, an empty string of digits is not.
-/

namespace Parley.Decimal

/-- The character of a digit below ten. -/
def digitChar (d : Nat) : Char :=
  Char.ofNat (48 + d)

/-- The value of an ASCII digit. -/
def digitValue? (c : Char) : Option Nat :=
  if '0' ≤ c ∧ c ≤ '9' then some (c.toNat - 48) else none

/-- The digits of a natural number, most significant first. -/
def natDigits (n : Nat) : List Char :=
  if n < 10 then [digitChar n] else natDigits (n / 10) ++ [digitChar (n % 10)]

/-- Read on from `acc`: every character must be a digit. -/
def readDigits (acc : Nat) : List Char → Option Nat
  | [] => some acc
  | c :: cs => (digitValue? c).bind fun d => readDigits (acc * 10 + d) cs

/-- The value of a string of digits with at least one digit. -/
def readUnsigned? : List Char → Option Nat
  | [] => none
  | cs => readDigits 0 cs

/-- A natural number with an optional plus sign. -/
def readNat? : List Char → Option Nat
  | '+' :: cs => readUnsigned? cs
  | cs => readUnsigned? cs

/-- An integer with an optional sign. -/
def readInt? : List Char → Option Int
  | '-' :: cs => (readUnsigned? cs).map fun n => -(n : Int)
  | cs => (readNat? cs).map Int.ofNat

/-- The written form of a natural number. -/
def natText (n : Nat) : String :=
  String.ofList (natDigits n)

/-- The written form of an integer. -/
def intText (i : Int) : String :=
  match i with
  | .ofNat n => natText n
  | .negSucc n => String.ofList ('-' :: natDigits (n + 1))

end Parley.Decimal

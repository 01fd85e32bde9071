/-
# JSON text

The compact form: no blanks, the fields in the order they stand in the value,
characters beyond ASCII as they are, control characters escaped.
-/

import Parley.Decimal.Shortest
import Parley.Json.Basic

namespace Parley.Json

/-- The digits of a number below sixteen. -/
def hexDigit (d : Nat) : Char :=
  if d < 10 then Char.ofNat (48 + d) else Char.ofNat (87 + d)

/-- One character inside a string. -/
def escape (c : Char) : List Char :=
  if c = '"' then ['\\', '"']
  else if c = '\\' then ['\\', '\\']
  else if c = '\x08' then ['\\', 'b']
  else if c = '\x0c' then ['\\', 'f']
  else if c = '\n' then ['\\', 'n']
  else if c = '\r' then ['\\', 'r']
  else if c = '\t' then ['\\', 't']
  else if c.toNat < 0x20 then
    ['\\', 'u', '0', '0', hexDigit (c.toNat / 16), hexDigit (c.toNat % 16)]
  else [c]

/-- A string between quotes. -/
def quote (s : String) : List Char :=
  '"' :: (s.toList.flatMap escape ++ ['"'])

/-- Where positional notation of fractions begins and ends: a decimal whose
leading digit has an exponent from `leastPositional` to `greatestPositional` is
written out, any other with an exponent. -/
def leastPositional : Int := -5

/-- See `leastPositional`. -/
def greatestPositional : Int := 15

/-- The text of a magnitude.  There is always a fraction or an exponent, so a
fraction never reads back as an integer. -/
def magnitudeText (x : Decimal.Magnitude) : List Char :=
  let shortest := x.shortest
  let digits := Decimal.natDigits shortest.digits
  let leading : Int := shortest.exponent + digits.length - 1
  if leastPositional ≤ leading ∧ leading ≤ greatestPositional then
    if 0 ≤ shortest.exponent then
      digits ++ List.replicate shortest.exponent.toNat '0' ++ ['.', '0']
    else if 0 ≤ leading then
      let whole := digits.take (leading.toNat + 1)
      whole ++ '.' :: digits.drop (leading.toNat + 1)
    else '0' :: '.' :: (List.replicate (-leading - 1).toNat '0' ++ digits)
  else
    let sign := if 0 ≤ leading then '+' else '-'
    let fraction := digits.drop 1
    digits.take 1 ++ (if fraction.isEmpty then [] else '.' :: fraction)
      ++ 'e' :: sign :: Decimal.natDigits leading.natAbs

/-- The text of a number. -/
def Number.text : Number → List Char
  | .int i => (Decimal.intText i).toList
  | .real x => (if x.negative then ['-'] else []) ++ magnitudeText x.magnitude

mutual

/-- The characters of a document. -/
def chars : Json → List Char
  | .null => ['n', 'u', 'l', 'l']
  | .bool true => ['t', 'r', 'u', 'e']
  | .bool false => ['f', 'a', 'l', 's', 'e']
  | .num n => n.text
  | .str s => quote s
  | .arr [] => ['[', ']']
  | .arr (x :: xs) => '[' :: (chars x ++ itemChars xs)
  | .obj [] => ['\x7b', '\x7d']
  | .obj ((k, x) :: xs) => '\x7b' :: (quote k ++ ':' :: (chars x ++ fieldChars xs))

/-- The items after the first, up to the closing bracket. -/
def itemChars : List Json → List Char
  | [] => [']']
  | x :: xs => ',' :: (chars x ++ itemChars xs)

/-- The fields after the first, up to the closing brace. -/
def fieldChars : List (String × Json) → List Char
  | [] => ['\x7d']
  | (k, x) :: xs => ',' :: (quote k ++ ':' :: (chars x ++ fieldChars xs))

end

/-- The compact text of a document. -/
def text (j : Json) : String :=
  String.ofList j.chars

end Parley.Json

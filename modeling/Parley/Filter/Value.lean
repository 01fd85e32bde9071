/-
# Values of fields

A directive can ask for the value of a field.  What it asks for is written as a truth
value, a number or a pattern, and is read as the first of these that fits.
-/

import Parley.Decimal.Extended
import Parley.Filter.Pattern

namespace Parley.Filter

/-- What the value of a field must be. -/
inductive Value where
  | truth (b : Bool)
  | real (x : Decimal.Extended)
  /-- A natural number of 64 bits. -/
  | natural (n : Nat)
  /-- An integer of 64 bits that has a minus sign. -/
  | integer (i : Int)
  | pattern (text : String)
deriving DecidableEq, Repr

namespace Value

/-- What a text asks for, if it is at least a pattern. -/
def ofText? (text : List Char) : Option Value :=
  if text = ['t', 'r', 'u', 'e'] then some (.truth true)
  else if text = ['f', 'a', 'l', 's', 'e'] then some (.truth false)
  else
    let natural := (Decimal.readNat? text).filter fun n => decide (n < UInt64.size)
    let integer := (Decimal.readInt? text).filter fun i =>
      decide (Int64.minValue.toInt ≤ i) && decide (i ≤ Int64.maxValue.toInt)
    match natural, integer, Decimal.Extended.read? text with
    | some n, _, _ => some (.natural n)
    | none, some i, _ => some (.integer i)
    | none, none, some x => some (.real x)
    | none, none, none =>
        if Pattern.reads text then some (.pattern (String.ofList text)) else none

/-- How a value is written. -/
def text : Value → String
  | .truth b => if b then "true" else "false"
  | .real x => x.text
  | .natural n => Decimal.natText n
  | .integer i => Decimal.intText i
  | .pattern text => text

/-- The order of kinds of values. -/
def rank : Value → Nat
  | .truth _ => 0
  | .real _ => 1
  | .natural _ => 2
  | .integer _ => 3
  | .pattern _ => 4

/-- The order of values: by kind, then by what they are. -/
def order : Value → Value → Ordering
  | .truth a, .truth b => compare a b
  | .real a, .real b => a.order b
  | .natural a, .natural b => compare a b
  | .integer a, .integer b => compare a b
  | .pattern a, .pattern b => compare a b
  | a, b => compare a.rank b.rank

end Value

end Parley.Filter

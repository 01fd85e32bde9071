/-
# JSON values

The documents that structured properties and errors are written in.  Integers
and fractions are different numbers even when their values agree, as `1` and
`1.0` do; the fields of an object are kept in ascending order of their keys, so an
object has one form whatever order its text had.
-/

import Parley.Decimal.Binary

namespace Parley

/-- A JSON number. -/
inductive Json.Number where
  /-- A literal without fraction and exponent that fits a 64-bit word. -/
  | int (value : Int)
  /-- Any other literal. -/
  | real (value : Decimal.Binary64)
deriving DecidableEq, Repr

/-- A JSON value. -/
inductive Json where
  | null
  | bool (value : Bool)
  | num (value : Json.Number)
  | str (value : String)
  | arr (items : List Json)
  | obj (fields : List (String × Json))
deriving Repr, Inhabited

namespace Json

/-- The least integer kept as an integer. -/
def minInt : Int := Int64.minValue.toInt

/-- The greatest integer kept as an integer. -/
def maxInt : Int := (UInt64.size : Int) - 1

/-- Equality of numbers: of integers exact, of fractions by value. -/
def Number.same : Number → Number → Bool
  | .int a, .int b => a == b
  | .real a, .real b => a.same b
  | _, _ => false

mutual

/-- Equality of documents, to which the order of an object's keys does not
matter because both sides are in key order. -/
def same : Json → Json → Bool
  | .null, .null => true
  | .bool a, .bool b => a == b
  | .num a, .num b => a.same b
  | .str a, .str b => a == b
  | .arr a, .arr b => sameItems a b
  | .obj a, .obj b => sameFields a b
  | _, _ => false

/-- `same` on the items of two arrays. -/
def sameItems : List Json → List Json → Bool
  | [], [] => true
  | a :: as, b :: bs => same a b && sameItems as bs
  | _, _ => false

/-- `same` on the fields of two objects. -/
def sameFields : List (String × Json) → List (String × Json) → Bool
  | [], [] => true
  | (k, a) :: as, (l, b) :: bs => k == l && same a b && sameFields as bs
  | _, _ => false

end

/-- Put a field in its place; an earlier field of the same key gives way. -/
def insertField (key : String) (value : Json) :
    List (String × Json) → List (String × Json)
  | [] => [(key, value)]
  | (k, v) :: rest =>
      if key < k then (key, value) :: (k, v) :: rest
      else if key = k then (key, value) :: rest
      else (k, v) :: insertField key value rest

/-- The fields of an object whose text lists `fields` in this order. -/
def ofFields (fields : List (String × Json)) : List (String × Json) :=
  fields.foldl (fun sorted field => insertField field.1 field.2 sorted) []

/-- The value of a field. -/
def field? (key : String) (fields : List (String × Json)) : Option Json :=
  (fields.find? fun field => field.1 == key).map (·.2)

/-- A natural number as a JSON value. -/
def ofNat (n : Nat) : Json :=
  .num (.int n)

/-- An optional text, `null` when there is none. -/
def ofText? : Option String → Json
  | some s => .str s
  | none => .null

end Json

end Parley
